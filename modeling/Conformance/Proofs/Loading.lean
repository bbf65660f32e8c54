import Conformance.Document.Load
import Conformance.Proofs.Parsing
import Conformance.Proofs.Surrogates
import Conformance.Proofs.Utf8
/-!
# What loading a file ends with

Whatever stands at a path, reading it gives the value that its text spells, in which no object has a key twice,
or a failure of a known kind. Bytes that spell no text end it with a failure of its own, which no loader takes for
one of its kinds. So does a text that spells a surrogate alone, of which nothing more is said.
-/

namespace Conformance

/-! ## Files -/

/-- The bytes are the encoding of no text. -/
def NoText (bytes : List UInt8) : Prop := ∀ cs, bytes ≠ Text.encodeUtf8 cs

/-- What reading the file at a path ends with. -/
inductive FileEntry.Reads (path : String) : FileEntry → Except FileError Value → Prop
  | value {cs : List Char} {v : Value} (h : Json.readChars (Text.unifyLines cs) = .ok v) (hk : v.Keyed) :
    Reads path (.file (Text.encodeUtf8 cs)) (.ok v)
  | notJson {cs : List Char} {e : Json.ReadError} (h : Json.readChars (Text.unifyLines cs) = .error e)
    (hs : e ≠ .surrogate) : Reads path (.file (Text.encodeUtf8 cs)) (.error (.notJson path e))
  | surrogate {cs : List Char} (h : Json.SpellsSurrogate (Text.unifyLines cs)) :
    Reads path (.file (Text.encodeUtf8 cs)) (.error (.surrogate path))
  | unreadable {entry : FileEntry} {number : Nat} {reason : String} (h : ∀ bytes, entry ≠ .file bytes) :
    Reads path entry (.error (.unreadable path number reason))
  | undecodable {bytes : List UInt8} {e : Text.Utf8Error} (h : NoText bytes) :
    Reads path (.file bytes) (.error (.undecodable e))

theorem FileEntry.value_reads (path : String) (entry : FileEntry) : entry.Reads path (entry.value path) := by
  cases entry with
  | missing => exact .unreadable nofun
  | blocked => exact .unreadable nofun
  | nameTooLong => exact .unreadable nofun
  | directory => exact .unreadable nofun
  | file bytes =>
    cases hd : Text.decodeUtf8 bytes with
    | error e =>
      have hvalue : (FileEntry.file bytes).value path = .error (.undecodable e) := by
        rw [value, text, hd]; rfl
      rw [hvalue]
      exact .undecodable (Text.decodeUtf8_error.1 ⟨e, hd⟩)
    | ok cs =>
      have hvalue : (FileEntry.file bytes).value path =
          (Json.readChars (Text.unifyLines cs)).mapError (.ofReadError path) := by
        rw [value, text, hd]; rfl
      rw [hvalue, Text.decodeUtf8_ok.1 hd]
      cases hr : Json.readChars (Text.unifyLines cs) with
      | ok v => exact .value hr (Json.keyed_of_read hr)
      | error e =>
        cases e with
        | fault _ _ => exact .notJson hr nofun
        | tooManyDigits _ => exact .notJson hr nofun
        | surrogate => exact .surrogate (Json.spellsSurrogate_of_read hr)

/-! ## Documents -/

/-- What loading a document ends with. -/
inductive Role.Loads (role : Role) (path : String) : FileEntry → Except LoadError Value → Prop
  | value {bytes : List UInt8} {v : Value} (h : (FileEntry.file bytes).value path = .ok v)
    (ha : (∃ entries, v = .obj entries) ∨ role = .schema ∧ ∃ items, v = .list items) :
    Loads role path (.file bytes) (.ok v)
  | wrongRoot {bytes : List UInt8} {v : Value} (h : (FileEntry.file bytes).value path = .ok v)
    (ha : role.admits v = false) : Loads role path (.file bytes) (.error (.wrongRoot role path))
  | notJson {bytes : List UInt8} {e : Json.ReadError}
    (h : (FileEntry.file bytes).value path = .error (.notJson path e)) :
    Loads role path (.file bytes) (.error (.notJson role (.notJson path e)))
  | missing {entry : FileEntry} (h : entry = .missing ∨ entry = .blocked) :
    Loads role path entry (.error (.missing role path))
  | notFile : Loads role path .directory (.error (.notFile role path))
  | nameTooLong : Loads role path .nameTooLong (.error (.nameTooLong path))
  | undecodable {bytes : List UInt8} {e : Text.Utf8Error} (h : NoText bytes) :
    Loads role path (.file bytes) (.error (.undecodable e))
  | surrogate {cs : List Char} (h : Json.SpellsSurrogate (Text.unifyLines cs)) :
    Loads role path (.file (Text.encodeUtf8 cs)) (.error (.surrogate path))

theorem Role.admits_iff {role : Role} {v : Value} :
    role.admits v = true ↔ (∃ entries, v = .obj entries) ∨ role = .schema ∧ ∃ items, v = .list items := by
  cases v with
  | obj entries => cases role <;> simp [Role.admits]
  | arr s items => cases role <;> cases s <;> simp [Role.admits]
  | _ => cases role <;> simp [Role.admits]

theorem Role.load_loads (role : Role) (path : String) (entry : FileEntry) :
    role.Loads path entry (role.load path entry) := by
  cases entry with
  | missing => exact .missing (.inl rfl)
  | blocked => exact .missing (.inr rfl)
  | nameTooLong => exact .nameTooLong
  | directory => exact .notFile
  | file bytes =>
    have hload : role.load path (.file bytes) =
        (((FileEntry.file bytes).value path).mapError (.ofFileError role) >>= fun v =>
          if role.admits v then pure v else throw (.wrongRoot role path)) := rfl
    have hreads := FileEntry.value_reads path (.file bytes)
    rw [hload]
    cases hv : (FileEntry.file bytes).value path with
    | ok v =>
      show Loads role path (.file bytes) (if role.admits v then pure v else throw (.wrongRoot role path))
      cases ha : role.admits v with
      | true => exact .value hv (admits_iff.1 ha)
      | false => exact .wrongRoot hv ha
    | error e =>
      rw [hv] at hreads
      cases hreads with
      | notJson _ _ => exact .notJson hv
      | surrogate h => exact .surrogate h
      | unreadable h => exact absurd rfl (h bytes)
      | undecodable h => exact .undecodable h

end Conformance
