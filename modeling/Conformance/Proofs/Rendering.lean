import Conformance.Proofs.CanonicalForm
import Conformance.Value.Render
/-!
# Rendered values in files

A file that holds what a value without doubles is rendered to holds that value again: no control character is
written, so there is no line end that reading could change, and the text is read back as RoundTrip has it. A file that
holds the canonical form gives the value with its keys in order, which has this canonical form too.
-/

namespace Conformance

/-! ## Line ends -/

theorem Text.unifyLines_eq_self {cs : List Char} (h : '\r' ∉ cs) : unifyLines cs = cs := by
  induction cs with
  | nil => rfl
  | cons c cs ih =>
    rw [List.mem_cons, not_or] at h
    obtain ⟨hc, hcs⟩ := h
    unfold unifyLines
    split
    · next heq => cases heq
    · next heq => exact absurd (List.cons.inj heq).1.symm hc
    · next heq => exact absurd (List.cons.inj heq).1.symm hc
    · next heq =>
      obtain ⟨rfl, rfl⟩ := List.cons.inj heq
      rw [ih hcs]

namespace Json

/-- No control character stands in the text. -/
def Printed (cs : List Char) : Prop := ∀ c ∈ cs, 0x20 ≤ c.toNat

instance decidablePrinted (cs : List Char) : Decidable (Printed cs) := List.decidableBAll _ _

theorem printed_nil : Printed [] := List.forall_mem_nil _

theorem Printed.cons {c : Char} {cs : List Char} (hc : 0x20 ≤ c.toNat) (h : Printed cs) : Printed (c :: cs) :=
  List.forall_mem_cons.2 ⟨hc, h⟩

theorem Printed.append {cs ds : List Char} (h : Printed cs) (h' : Printed ds) : Printed (cs ++ ds) :=
  List.forall_mem_append.2 ⟨h, h'⟩

theorem Printed.drop {cs : List Char} (h : Printed cs) (n : Nat) : Printed (cs.drop n) :=
  fun c hc => h c (List.mem_of_mem_drop hc)

theorem Printed.no_return {cs : List Char} (h : Printed cs) : '\r' ∉ cs :=
  fun hmem => absurd (h _ hmem) (by decide)

theorem printed_hexDigits (width n : Nat) : Printed (Text.hexDigits width n) := by
  have hdigit : ∀ m < 16, 0x20 ≤ (Nat.digitChar m).toNat := by decide
  induction width generalizing n with
  | zero => exact printed_nil
  | succ width ih => exact (ih _).append (.cons (hdigit _ (Nat.mod_lt n (by decide))) printed_nil)

theorem printed_escapeChar (c : Char) : Printed (escapeChar c) := by
  unfold escapeChar
  split_ifs with _ _ _ _ _ _ _ hcontrol
  -- a quote, a backslash and the controls with an escape of their own
  iterate 7 · decide
  · exact .cons (by decide) (.cons (by decide) (printed_hexDigits 4 c.toNat))
  · exact .cons (Nat.le_of_not_lt hcontrol) printed_nil

theorem printed_writeText (s : String) : Printed (writeText s) := by
  have hbody : Printed (s.toList.flatMap escapeChar) := by
    intro c hc
    obtain ⟨d, -, hc⟩ := List.mem_flatMap.1 hc
    exact printed_escapeChar d c hc
  exact .cons (by decide) (hbody.append (.cons (by decide) printed_nil))

theorem printed_writeInt (n : Int) : Printed (writeInt n) := by
  have hdigits : Printed (Nat.toDigits 10 n.natAbs) := by
    intro c hc
    have hdigit := isDigit_of_toDigits c hc
    simp only [Char.isDigit, ge_iff_le, Bool.and_eq_true, decide_eq_true_eq, UInt32.le_iff_toNat_le] at hdigit
    exact Nat.le_trans (by decide) hdigit.1
  unfold writeInt
  split
  · exact .cons (by decide) hdigits
  · exact hdigits

theorem printed_items {vs : List Value} (h : ∀ v ∈ vs, ∀ cs, writeChars v = .ok cs → Printed cs) {body : List Char}
    (hbody : writeItems vs = .ok body) : Printed body := by
  induction vs generalizing body with
  | nil =>
    cases hbody
    exact printed_nil
  | cons v vs ih =>
    obtain ⟨hv, hvs⟩ := List.forall_mem_cons.1 h
    obtain ⟨first, others, hfirst, hothers, rfl⟩ := writeItems_cons hbody
    exact .append (.cons (by decide) (hv first hfirst)) (ih hvs hothers)

theorem printed_entries {entries : List (String × Value)}
    (h : ∀ e ∈ entries, ∀ cs, writeChars e.2 = .ok cs → Printed cs) {body : List Char}
    (hbody : writeEntries entries = .ok body) : Printed body := by
  induction entries generalizing body with
  | nil =>
    cases hbody
    exact printed_nil
  | cons e entries ih =>
    obtain ⟨hv, hvs⟩ := List.forall_mem_cons.1 h
    obtain ⟨first, others, hfirst, hothers, rfl⟩ := writeEntries_cons hbody
    have hentry := (printed_writeText e.1).append (.cons (c := ':') (by decide) (hv first hfirst))
    exact .append (.cons (by decide) hentry) (ih hvs hothers)

/-- Control characters are escaped wherever they stand. -/
theorem printed_write {v : Value} (hv : v.Plain) {cs : List Char} (h : writeChars v = .ok cs) : Printed cs := by
  induction hv generalizing cs with
  | null =>
    cases h
    decide
  | bool b => cases b <;> cases h <;> decide
  | @int n hn =>
    have hwrite : writeChars (.int n) = .ok (writeInt n) := if_pos hn
    rw [hwrite] at h
    cases h
    exact printed_writeInt n
  | str s =>
    cases h
    exact printed_writeText s
  | arr s _ ih =>
    obtain ⟨body, hbody, h⟩ := except_bind_ok.1 h
    cases h
    exact .append (.cons (by decide) ((printed_items ih hbody).drop 1)) (.cons (by decide) printed_nil)
  | obj _ _ ih =>
    obtain ⟨body, hbody, h⟩ := except_bind_ok.1 h
    cases h
    exact .append (.cons (by decide) ((printed_entries ih hbody).drop 1)) (.cons (by decide) printed_nil)

end Json

namespace Value

/-! ## Keys in order -/

/-- No tuple stands in the value. -/
def Tupleless (v : Value) : Prop := v.listed = v

/-- The keys of every object in the value increase, compared character by character. -/
inductive Ordered : Value → Prop
  | null : Ordered .null
  | bool (b : Bool) : Ordered (.bool b)
  | num (n : Number) : Ordered (.num n)
  | str (s : String) : Ordered (.str s)
  | arr (s : Sequence) {items : List Value} (h : ∀ x ∈ items, Ordered x) : Ordered (.arr s items)
  | obj {entries : List (String × Value)} (hk : Entries.Increasing entries) (h : ∀ e ∈ entries, Ordered e.2) :
    Ordered (.obj entries)
  | foreign (id : Foreign) (text : Option String) : Ordered (.foreign id text)

theorem Ordered.sortKeys_eq {v : Value} (h : v.Ordered) : v.sortKeys = v := by
  induction h with
  | arr s _ ih =>
    rw [Value.sortKeys, sortItems_eq, List.map_congr_left ih, List.map_id']
  | @obj entries hk _ ih =>
    have hsorted : sortEntries entries = entries := by
      refine hk.ext (increasing_sortEntries hk.nodup) fun key => ?_
      rw [lookup_sortEntries]
      cases hl : entries.lookup key with
      | none => rfl
      | some v => exact congrArg some (ih _ (Entries.mem_of_lookup hl))
    rw [Value.sortKeys, hsorted]
  | null | bool | num | str | foreign => rfl

theorem ordered_normal {v : Value} (h : v.Plain) : v.normal.Ordered := by
  induction h with
  | null => exact .null
  | bool b => exact .bool b
  | int h => exact .num _
  | str s => exact .str s
  | arr s _ ih =>
    rw [normal_arr]
    refine .arr .list fun w hw => ?_
    obtain ⟨x, hx, rfl⟩ := List.mem_map.1 hw
    exact ih x hx
  | @obj entries hk _ ih =>
    have hincreasing := increasing_normalEntries hk
    refine .obj hincreasing fun e he => ?_
    -- an entry is what is found under its key, so it is the normal form of what was there
    have hl := Entries.lookup_of_mem hincreasing.nodup he
    rw [lookup_normalEntries] at hl
    obtain ⟨x, hx, hnormal⟩ := Option.map_eq_some_iff.1 hl
    rw [← hnormal]
    exact ih _ (Entries.mem_of_lookup hx)

mutual

theorem tupleless_listed : ∀ v : Value, v.listed.Tupleless
  | .arr _ items => congrArg list (listedItems_listed items)
  | .obj entries => congrArg obj (listedEntries_listed entries)
  | .null | .bool _ | .num _ | .str _ | .foreign _ _ => rfl

theorem listedItems_listed : ∀ items : List Value, listedItems (listedItems items) = listedItems items
  | [] => rfl
  | v :: rest => congrArg₂ List.cons (tupleless_listed v) (listedItems_listed rest)

theorem listedEntries_listed : ∀ entries : List (String × Value),
    listedEntries (listedEntries entries) = listedEntries entries
  | [] => rfl
  | (k, v) :: rest => congrArg₂ (fun w others => (k, w) :: others) (tupleless_listed v) (listedEntries_listed rest)

end

/-- The normal form of a normal form is that form. -/
theorem normal_normal {v : Value} (h : v.Plain) : v.normal.normal = v.normal := by
  rw [normal, (ordered_normal h).sortKeys_eq]
  exact tupleless_listed _

theorem Plain.listed {v : Value} (h : v.Plain) : v.listed.Plain := by
  induction h with
  | null => exact .null
  | bool b => exact .bool b
  | int h => exact .int h
  | str s => exact .str s
  | arr s _ ih =>
    rw [Value.listed, listedItems_eq]
    refine .arr .list fun w hw => ?_
    obtain ⟨x, hx, rfl⟩ := List.mem_map.1 hw
    exact ih x hx
  | @obj entries hk _ ih =>
    rw [Value.listed]
    refine .obj (by rwa [keys_listedEntries]) fun e he => ?_
    rw [listedEntries_eq] at he
    obtain ⟨f, hf, rfl⟩ := List.mem_map.1 he
    exact ih f hf

/-- The normal form differs from the value in nothing but the order of keys, and tuples. -/
theorem equalUpToOrder_normal {v : Value} (h : v.Plain) : v.EqualUpToOrder v.normal :=
  (partwise_normal.iff_equalUpToOrder h h.sortKeys.listed).1 (normal_normal h).symm

theorem render_of_write {v : Value} {cs : List Char} (h : Json.writeChars v = .ok cs) :
    v.render = String.ofList cs := by
  rw [render, Json.write, h]
  rfl

end Value

namespace Json

theorem canonicalText_of_canonical {v : Value} {c : Canonical} (h : canonical v = .ok c) :
    canonicalText v = .ok c.text := by
  obtain ⟨text, htext, h⟩ := except_bind_ok.1 h
  cases h
  exact htext

/-- A value with its keys in order has the same canonical text. -/
theorem canonicalText_normal {v : Value} (h : v.Plain) : canonicalText v.normal = canonicalText v := by
  rw [canonicalText, canonicalText, write, write, (Value.ordered_normal h).sortKeys_eq, Value.normal, writeChars_listed]

end Json

/-! ## Files -/

namespace FileEntry

variable {v : Value} {cs : List Char}

/-- A file with a value's text holds the value, with lists in place of tuples. -/
theorem value_write (hv : v.Plain) (h : Json.writeChars v = .ok cs) (path : String) :
    (file (Text.encodeUtf8 cs)).value path = .ok v.listed := by
  have htext : (file (Text.encodeUtf8 cs)).text path = .ok cs := by
    rw [text, Text.decodeUtf8_ok.2 rfl]
    exact congrArg Except.ok (Text.unifyLines_eq_self (Json.printed_write hv h).no_return)
  refine except_bind_ok.2 ⟨cs, htext, ?_⟩
  rw [Json.readChars_write hv h]
  rfl

theorem value_render (hv : v.Plain) (path : String) :
    (file (Text.encodeUtf8 v.render.toList)).value path = .ok v.listed := by
  obtain ⟨cs, h⟩ := Json.writeChars_ok hv.writable
  rw [Value.render_of_write h, String.toList_ofList]
  exact value_write hv h path

theorem value_canonical (hv : v.Plain) {c : Json.Canonical} (h : Json.canonical v = .ok c) (path : String) :
    (file c.bytes).value path = .ok v.normal := by
  obtain ⟨cs, hcs⟩ := Json.write_normal hv
  rw [Json.canonical_eq hcs] at h
  cases h
  rw [Value.normal, Json.writeChars_listed] at hcs
  exact value_write hv.sortKeys hcs path

/-- A file with what a value is rendered to holds the value, entry by entry. A file with its canonical bytes holds the
value with its keys in order. Both have the canonical form of the value. -/
theorem rendered_reads_back (hv : v.Plain) (hl : v.Tupleless) (path : String) :
    (file (Text.encodeUtf8 v.render.toList)).value path = .ok v ∧
    ∃ c, Json.canonical v = .ok c ∧ (file c.bytes).value path = .ok v.normal ∧
      v.EqualUpToOrder v.normal ∧ v.normal.Tupleless ∧ v.normal.Ordered ∧
      Json.canonicalText v = .ok c.text ∧ Json.canonicalText v.normal = .ok c.text := by
  obtain ⟨c, hc⟩ := hv.writable.canonical
  have htext : Json.canonicalText v = .ok c.text := Json.canonicalText_of_canonical hc
  have hrender := value_render hv path
  rw [hl] at hrender
  exact ⟨hrender, c, hc, value_canonical hv hc path, Value.equalUpToOrder_normal hv, Value.tupleless_listed _,
    Value.ordered_normal hv, htext, (Json.canonicalText_normal hv).trans htext⟩

/-- Line ends, quotes and control characters in a key and in a text, a long negative number, nothing in a list and in
an object, and keys that are not in order. -/
def journal : Value :=
  .obj [("b\r\n", .str "\r\"\\\u0000\u007f\u2028é"), ("a", .obj [("y", .int (-12345678901234567890123)), ("x", .obj [])]),
    ("", .list [.null, .bool false, .list []])]

def journalInOrder : Value :=
  .obj [("", .list [.null, .bool false, .list []]), ("a", .obj [("x", .obj []), ("y", .int (-12345678901234567890123))]),
    ("b\r\n", .str "\r\"\\\u0000\u007f\u2028é")]

theorem plain_journal : journal.Plain := by
  have hnumber : (Value.int (-12345678901234567890123)).Plain := .int (by decide)
  have hinner : (Value.obj [("y", .int (-12345678901234567890123)), ("x", .obj [])]).Plain :=
    .obj (by simp) (List.forall_mem_cons.2
      ⟨hnumber, List.forall_mem_singleton.2 (.obj List.nodup_nil (List.forall_mem_nil _))⟩)
  have hlist : (Value.list [.null, .bool false, .list []]).Plain :=
    .arr .list (List.forall_mem_cons.2 ⟨.null, List.forall_mem_cons.2
      ⟨.bool false, List.forall_mem_singleton.2 (.arr .list (List.forall_mem_nil _))⟩⟩)
  exact .obj (by simp) (List.forall_mem_cons.2
    ⟨.str _, List.forall_mem_cons.2 ⟨hinner, List.forall_mem_singleton.2 hlist⟩⟩)

/-- Rendered it comes back as it is, and from its canonical bytes with the empty key in front. -/
theorem rendered_reads_back_journal :
    journal.Plain ∧ journal.Tupleless ∧
    (file (Text.encodeUtf8 journal.render.toList)).value "journal.json" = .ok journal ∧
    ∃ c, Json.canonical journal = .ok c ∧ (file c.bytes).value "journal.json" = .ok journalInOrder ∧
      Json.canonicalText journalInOrder = .ok c.text := by
  have hnormal : journal.normal = journalInOrder := by rfl
  obtain ⟨hrender, c, hc, hcanonical, -, -, -, -, htext⟩ := rendered_reads_back plain_journal rfl "journal.json"
  rw [hnormal] at hcanonical htext
  exact ⟨plain_journal, rfl, hrender, c, hc, hcanonical, htext⟩

end FileEntry

end Conformance
