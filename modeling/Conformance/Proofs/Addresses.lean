import Conformance.Proofs.Cycles
import Conformance.Proofs.Pointers
/-!
# Addresses of definitions

A reference is read in one way only, and every definition whose name is not empty has one: its name is escaped,
first the tildes and then the slashes, and reading undoes this. So the reference resolves over every table that has
the name, if the definition under it compiles.
-/

namespace Conformance

open Meaning

namespace Pointer

/-! ## Decoding -/

/-- The name that a token spells from left to right; a tilde that begins no escape stands for itself. -/
inductive Decodes : List Char → List Char → Prop
  | nil : Decodes [] []
  | tilde {token name : List Char} (h : Decodes token name) : Decodes ('~' :: '0' :: token) ('~' :: name)
  | slash {token name : List Char} (h : Decodes token name) : Decodes ('~' :: '1' :: token) ('/' :: name)
  | other {c : Char} {token name : List Char} (hc : c = '~' → token.head? ≠ some '0' ∧ token.head? ≠ some '1')
    (h : Decodes token name) : Decodes (c :: token) (c :: name)

variable {token name name' : List Char}

theorem replaceEscape_escape (digit c : Char) (rest : List Char) :
    replaceEscape digit c ('~' :: digit :: rest) = c :: replaceEscape digit c rest := by
  rw [replaceEscape, if_pos ⟨rfl, rfl⟩]

theorem replaceEscape_cons {digit c c' : Char} {rest : List Char} (h : c' = '~' → rest.head? ≠ some digit) :
    replaceEscape digit c (c' :: rest) = c' :: replaceEscape digit c rest := by
  cases rest with
  | nil => rfl
  | cons d rest =>
    rw [replaceEscape, if_neg]
    rintro ⟨hc, rfl⟩
    exact h hc rfl

/-- No digit comes first that was not first before. -/
theorem head?_replaceEscape {digit c d : Char} (hc : c ≠ d) {cs : List Char}
    (h : cs.head? ≠ some d) : (replaceEscape digit c cs).head? ≠ some d := by
  cases cs with
  | nil => exact h
  | cons c' rest =>
    cases rest with
    | nil => exact h
    | cons d' rest =>
      rw [replaceEscape]
      split
      · exact fun he => hc (Option.some.inj he)
      · exact h

theorem unescape_tilde (rest : List Char) : unescape ('~' :: '0' :: rest) = '~' :: unescape rest := by
  have hzero : replaceEscape '1' '/' ('0' :: rest) = '0' :: replaceEscape '1' '/' rest := replaceEscape_cons nofun
  rw [unescape, replaceEscape_cons (by simp), hzero, replaceEscape_escape, unescape]

theorem unescape_slash (rest : List Char) : unescape ('~' :: '1' :: rest) = '/' :: unescape rest := by
  rw [unescape, replaceEscape_escape, replaceEscape_cons (by simp), unescape]

/-- The first replacement puts no digit behind a tilde, so none is taken for an escape in the second. -/
theorem unescape_cons {c : Char} (hc : c = '~' → token.head? ≠ some '0' ∧ token.head? ≠ some '1') :
    unescape (c :: token) = c :: unescape token := by
  have hfirst : replaceEscape '1' '/' (c :: token) = c :: replaceEscape '1' '/' token :=
    replaceEscape_cons fun h => (hc h).2
  rw [unescape, hfirst, replaceEscape_cons fun h => head?_replaceEscape (by decide) (hc h).1, unescape]

/-- The two replacements read a token from left to right. -/
theorem decodes_unescape : ∀ token : List Char, Decodes token (unescape token)
  | [] => .nil
  | [c] => by
    show Decodes [c] [c]
    exact .other (fun _ => ⟨nofun, nofun⟩) .nil
  | c :: d :: rest => by
    by_cases hzero : c = '~' ∧ d = '0'
    · obtain ⟨rfl, rfl⟩ := hzero
      rw [unescape_tilde]
      exact .tilde (decodes_unescape rest)
    by_cases hone : c = '~' ∧ d = '1'
    · obtain ⟨rfl, rfl⟩ := hone
      rw [unescape_slash]
      exact .slash (decodes_unescape rest)
    · have hc : c = '~' → (d :: rest).head? ≠ some '0' ∧ (d :: rest).head? ≠ some '1' := fun h =>
        ⟨fun hd => hzero ⟨h, Option.some.inj hd⟩, fun hd => hone ⟨h, Option.some.inj hd⟩⟩
      rw [unescape_cons hc]
      exact .other hc (decodes_unescape (d :: rest))

theorem Decodes.unique (h : Decodes token name) (h' : Decodes token name') : name = name' := by
  induction h generalizing name' with
  | nil => cases h'; rfl
  | tilde _ ih =>
    cases h' with
    | tilde h' => rw [ih h']
    | other hc _ => exact absurd rfl (hc rfl).1
  | slash _ ih =>
    cases h' with
    | slash h' => rw [ih h']
    | other hc _ => exact absurd rfl (hc rfl).2
  | other hc _ ih =>
    cases h' with
    | tilde _ => exact absurd rfl (hc rfl).1
    | slash _ => exact absurd rfl (hc rfl).2
    | other _ h' => rw [ih h']

theorem decodes_iff : Decodes token name ↔ name = unescape token := by
  constructor
  · intro h
    exact h.unique (decodes_unescape token)
  · rintro rfl
    exact decodes_unescape token

/-! ## Encoding -/

/-- Puts the text in place of each such character. -/
def replaceChar (c : Char) (text cs : List Char) : List Char := cs.flatMap fun d => if d = c then text else [d]

/-- First each tilde becomes `~0`, and then each slash `~1`. -/
def escape (name : List Char) : List Char := replaceChar '/' ['~', '1'] (replaceChar '~' ['~', '0'] name)

def encodeChar (c : Char) : List Char :=
  if c = '~' then ['~', '0'] else if c = '/' then ['~', '1'] else [c]

def encodeName (name : List Char) : List Char := name.flatMap encodeChar

/-- No slash gets in with the tildes, so one pass does the same. -/
theorem escape_eq_encodeName (name : List Char) : escape name = encodeName name := by
  rw [escape, replaceChar, replaceChar, List.flatMap_assoc]
  refine List.flatMap_congr fun c _ => ?_
  unfold encodeChar
  by_cases ht : c = '~'
  · subst ht
    rfl
  · rw [if_neg ht, if_neg ht, List.flatMap_singleton]

theorem decodes_encodeName (name : List Char) : Decodes (encodeName name) name := by
  induction name with
  | nil => exact .nil
  | cons c name ih =>
    rw [encodeName, List.flatMap_cons, encodeChar]
    by_cases ht : c = '~'
    · subst ht
      exact .tilde ih
    · rw [if_neg ht]
      by_cases hs : c = '/'
      · subst hs
        exact .slash ih
      · rw [if_neg hs]
        exact .other (fun h => absurd h ht) ih

theorem slash_not_mem_encodeName (name : List Char) : '/' ∉ encodeName name := by
  intro h
  obtain ⟨c, _, hc⟩ := List.mem_flatMap.1 h
  unfold encodeChar at hc
  split at hc
  · simp at hc
  · split at hc
    · simp at hc
    · next hs => exact hs (List.mem_singleton.1 hc).symm

theorem encodeName_ne_nil (h : name ≠ []) : encodeName name ≠ [] := by
  cases name with
  | nil => exact absurd rfl h
  | cons c name =>
    rw [encodeName, List.flatMap_cons, encodeChar]
    split
    · exact List.cons_ne_nil _ _
    · split <;> exact List.cons_ne_nil _ _

end Pointer

/-! ## References that are read -/

namespace Reference

theorem toList_root_append (token : List Char) :
    ("#/definitions/" ++ String.ofList token).toList = root ++ token := by
  rw [String.toList_append, @String.toList_ofList token]
  rfl

theorem eq_root_append_iff {text : String} {token : List Char} :
    text = "#/definitions/" ++ String.ofList token ↔ text.toList = root ++ token := by
  rw [← toList_root_append, String.toList_inj]

/-- A text is read as a reference exactly if it is the root with a token behind it, and then for the name that the
token spells. -/
theorem ofValue_str {text : String} {ref : Reference} : ofValue (.str text) = .ok ref ↔
    ref.text = text ∧ ∃ token : List Char, token ≠ [] ∧ '/' ∉ token ∧ text = "#/definitions/" ++ String.ofList token ∧
      Pointer.Decodes token ref.name.toList := by
  simp only [eq_root_append_iff, Pointer.decodes_iff]
  rw [ofValue, ofText?]
  constructor
  · intro h
    cases hname : encodedName? text.toList with
    | none =>
      rw [hname] at h
      cases h
    | some token =>
      rw [hname] at h
      cases h
      obtain ⟨hne, hs, htext⟩ := encodedName?_iff.1 hname
      exact ⟨rfl, token, hne, hs, htext, String.toList_ofList⟩
  · rintro ⟨rfl, token, hne, hs, htext, hname⟩
    rw [encodedName?_iff.2 ⟨hne, hs, htext⟩, Option.map_some, ← hname, String.ofList_toList]
    rfl

theorem ofValue_str_error {text : String} {e : SchemaError} (h : ofValue (.str text) = .error e) :
    e = .refMalformed text := by
  rw [ofValue] at h
  split at h
  · cases h
  · cases h
    rfl

/-- The escaped name of a definition is read as its name. -/
theorem ofValue_escape {name : String} (h : name ≠ "") :
    ofValue (.str ("#/definitions/" ++ String.ofList (Pointer.escape name.toList))) =
      .ok ⟨"#/definitions/" ++ String.ofList (Pointer.escape name.toList), name⟩ := by
  have hne : name.toList ≠ [] := fun hn => h (String.toList_eq_nil_iff.1 hn)
  rw [Pointer.escape_eq_encodeName]
  exact ofValue_str.2 ⟨rfl, _, Pointer.encodeName_ne_nil hne, Pointer.slash_not_mem_encodeName _, rfl,
    Pointer.decodes_encodeName _⟩

end Reference

/-! ## References that resolve -/

namespace Scope

variable {scope : Scope}

/-- A reference to a definition that reaches no faulty node resolves, whatever has been checked before. -/
theorem resolve_of_faultless {ref target : Value} {name : String} (hl : scope.lookUp ref = .ok (name, target))
    (hf : Faultless scope.definitions target) (marks : List Mark) :
    ∃ marks', (scope.resolve ref).run marks = (.ok (.reference scope name target), marks') := by
  have honce : ∃ marks', (scope.checkOnce name target fun target => do let _ ← scope.compile target; pure ()).run
      marks = (.ok (), marks') := by
    rw [run_checkOnce]
    by_cases hm : scope.mark name ∈ marks
    · rw [if_pos hm]
      exact ⟨_, rfl⟩
    · rw [if_neg hm]
      obtain ⟨r, passes, _, hrun, hfault, _⟩ := scope.run_reachable target (marks ++ [scope.mark name])
      cases r with
      | ok v => exact ⟨_, run_bind_of_ok hrun⟩
      | error e =>
        obtain ⟨n, hn, hfault⟩ := hfault e rfl
        exact absurd hfault (hf n hn e.code)
  obtain ⟨marks', honce⟩ := honce
  rw [resolve_eq, resolveWith_eq, hl]
  exact ⟨marks', run_bind_of_ok honce⟩

end Scope

namespace Reference

/-- A text is read as a reference exactly if it is `#/definitions/` and a token behind it that is not empty and has
no slash in it; everything else is malformed. The name is what the token spells from left to right, which is what
comes out when first each `~1` is replaced and then each `~0`. Every name that is not empty is the name of
a reference, the one with the name escaped behind the root; and over a table in which all definitions compile it
resolves to the deferred check of the definition of that name, whatever has been checked before. -/
theorem addresses_definitions :
    (∀ text ref, ofValue (.str text) = .ok ref ↔ ref.text = text ∧ ∃ token : List Char, token ≠ [] ∧ '/' ∉ token ∧
      text = "#/definitions/" ++ String.ofList token ∧ Pointer.Decodes token ref.name.toList) ∧
    (∀ text, (∀ ref, ofValue (.str text) ≠ .ok ref) → ofValue (.str text) = .error (.refMalformed text)) ∧
    (∀ token name, Pointer.Decodes token name ↔ name = Pointer.unescape token) ∧
    ∀ name : String, name ≠ "" →
      ofValue (.str ("#/definitions/" ++ String.ofList (Pointer.escape name.toList))) =
        .ok ⟨"#/definitions/" ++ String.ofList (Pointer.escape name.toList), name⟩ ∧
      ∀ (id : Nat) (table : Definitions) (target : Value), table.lookup name = some target →
        (∀ definition ∈ table, Compiles (some table) definition.2) → ∀ marks, ∃ marks',
          (Scope.resolve ⟨id, some table⟩
            (.str ("#/definitions/" ++ String.ofList (Pointer.escape name.toList)))).run marks =
            (.ok (.reference ⟨id, some table⟩ name target), marks') := by
  refine ⟨fun text ref => ofValue_str, fun text h => ?_, fun token name => ?_, fun name hne =>
    ⟨ofValue_escape hne, fun id table target hl hc marks => ?_⟩⟩
  · cases hr : ofValue (.str text) with
    | ok ref => exact absurd hr (h ref)
    | error e => rw [ofValue_str_error hr]
  · exact Pointer.decodes_iff
  · have hlook : (⟨id, some table⟩ : Scope).lookUp
        (.str ("#/definitions/" ++ String.ofList (Pointer.escape name.toList))) = .ok (name, target) :=
      Scope.lookUp_ok.2 ⟨_, ofValue_escape hne, rfl, table, rfl, hl⟩
    exact Scope.resolve_of_faultless hlook (hc _ (Entries.mem_of_lookup hl)).faultless marks

/-- A name with all that is escaped in it, and a line end; the definition refers to itself. -/
def awkwardTable : Definitions :=
  [("~1/\n", .obj [("items", .obj [("$ref", .str "#/definitions/~01~1\n")])]), ("", .obj [("type", .str "null")])]

theorem addresses_definitions_awkward :
    ofValue (.str "#/definitions/~01~1\n") = .ok ⟨"#/definitions/~01~1\n", "~1/\n"⟩ ∧
      ∀ marks, ∃ marks', (Scope.resolve ⟨0, some awkwardTable⟩ (.str "#/definitions/~01~1\n")).run marks =
        (.ok (.reference ⟨0, some awkwardTable⟩ "~1/\n"
          (.obj [("items", .obj [("$ref", .str "#/definitions/~01~1\n")])])), marks') := by
  obtain ⟨_, _, _, hname⟩ := addresses_definitions
  have htext : "#/definitions/" ++ String.ofList (Pointer.escape "~1/\n".toList) = "#/definitions/~01~1\n" := by decide
  have hcompiles : ∀ definition ∈ awkwardTable, Compiles (some awkwardTable) definition.2 := by
    intro definition hd
    simp only [awkwardTable, List.mem_cons, List.not_mem_nil, or_false] at hd
    rcases hd with rfl | rfl
    · exact ⟨_, _, rfl⟩
    · exact ⟨_, _, rfl⟩
  obtain ⟨hread, hresolve⟩ := hname "~1/\n" (by decide)
  rw [htext] at hread hresolve
  exact ⟨hread, fun marks => hresolve 0 awkwardTable _ rfl hcompiles marks⟩

end Reference

end Conformance
