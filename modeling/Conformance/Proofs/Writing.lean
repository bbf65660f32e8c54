import Conformance.Json.Canonical
import Conformance.Proofs.Loading
import Mathlib.Data.List.TakeDrop
import Mathlib.Data.Nat.Digits.Defs
/-!
# Values that can be written

A value has a JSON form unless a decimal, a foreign value or a whole number with too many digits stands in it.
None of these is ever read: a whole number has no more digits than it was read from, and those are counted. So every
value that was read from a text can be written again, and its canonical form is one of those.
-/

namespace Conformance

/-! ## Writing -/

/-- The value and all that stands in it have a JSON form. -/
inductive Value.Writable : Value → Prop
  | null : Writable .null
  | bool (b : Bool) : Writable (.bool b)
  | int {n : Int} (h : (Nat.toDigits 10 n.natAbs).length ≤ Number.digitLimit) : Writable (.int n)
  | float (x : Binary64) : Writable (.num (.float x))
  | str (s : String) : Writable (.str s)
  | arr (s : Sequence) {items : List Value} (h : ∀ x ∈ items, Writable x) : Writable (.arr s items)
  | obj {entries : List (String × Value)} (h : ∀ e ∈ entries, Writable e.2) : Writable (.obj entries)

namespace Json

theorem writeItems_ok {vs : List Value} (h : ∀ v ∈ vs, ∃ cs, writeChars v = .ok cs) :
    ∃ cs, writeItems vs = .ok cs := by
  induction vs with
  | nil => exact ⟨_, rfl⟩
  | cons v vs ih =>
    obtain ⟨⟨first, hv⟩, hvs⟩ := List.forall_mem_cons.1 h
    obtain ⟨others, ho⟩ := ih hvs
    exact ⟨_, except_bind_ok.2 ⟨first, hv, except_bind_ok.2 ⟨others, ho, rfl⟩⟩⟩

theorem writeEntries_ok {entries : List (String × Value)} (h : ∀ e ∈ entries, ∃ cs, writeChars e.2 = .ok cs) :
    ∃ cs, writeEntries entries = .ok cs := by
  induction entries with
  | nil => exact ⟨_, rfl⟩
  | cons e entries ih =>
    obtain ⟨⟨first, he⟩, hentries⟩ := List.forall_mem_cons.1 h
    obtain ⟨others, ho⟩ := ih hentries
    exact ⟨_, except_bind_ok.2 ⟨first, he, except_bind_ok.2 ⟨others, ho, rfl⟩⟩⟩

theorem writeChars_ok {v : Value} (h : v.Writable) : ∃ cs, writeChars v = .ok cs := by
  induction h with
  | null => exact ⟨_, rfl⟩
  | bool b => cases b <;> exact ⟨_, rfl⟩
  | int h => exact ⟨_, if_pos h⟩
  | float x => exact ⟨_, rfl⟩
  | str s => exact ⟨_, rfl⟩
  | arr s _ ih =>
    obtain ⟨body, hbody⟩ := writeItems_ok ih
    exact ⟨_, except_bind_ok.2 ⟨body, hbody, rfl⟩⟩
  | obj _ ih =>
    obtain ⟨body, hbody⟩ := writeEntries_ok ih
    exact ⟨_, except_bind_ok.2 ⟨body, hbody, rfl⟩⟩

end Json

/-! ## Sorting keys -/

theorem Entries.mem_insertSorted {α : Type} {key : String} {value : α} {entries : List (String × α)} {e : String × α}
    (h : e ∈ insertSorted key value entries) : e = (key, value) ∨ e ∈ entries := by
  induction entries with
  | nil => exact .inl (List.mem_singleton.1 h)
  | cons f entries ih =>
    obtain ⟨k, v⟩ := f
    rw [insertSorted] at h
    split at h
    · rcases List.mem_cons.1 h with rfl | h
      · exact .inr List.mem_cons_self
      · exact (ih h).imp_right (List.mem_cons_of_mem _)
    · exact List.mem_cons.1 h

namespace Value

theorem mem_sortItems {vs : List Value} {w : Value} (h : w ∈ sortItems vs) : ∃ v ∈ vs, w = v.sortKeys := by
  induction vs with
  | nil => cases h
  | cons v vs ih =>
    rw [sortItems] at h
    rcases List.mem_cons.1 h with rfl | h
    · exact ⟨v, List.mem_cons_self, rfl⟩
    · obtain ⟨u, hu, rfl⟩ := ih h
      exact ⟨u, List.mem_cons_of_mem _ hu, rfl⟩

theorem mem_sortEntries {entries : List (String × Value)} {e : String × Value} (h : e ∈ sortEntries entries) :
    ∃ f ∈ entries, e = (f.1, f.2.sortKeys) := by
  induction entries with
  | nil => cases h
  | cons f entries ih =>
    rw [sortEntries] at h
    rcases Entries.mem_insertSorted h with rfl | h
    · exact ⟨f, List.mem_cons_self, rfl⟩
    · obtain ⟨g, hg, rfl⟩ := ih h
      exact ⟨g, List.mem_cons_of_mem _ hg, rfl⟩

theorem Writable.sortKeys {v : Value} (h : v.Writable) : v.sortKeys.Writable := by
  induction h with
  | null => exact .null
  | bool b => exact .bool b
  | int h => exact .int h
  | float x => exact .float x
  | str s => exact .str s
  | arr s _ ih =>
    refine .arr s fun w hw => ?_
    obtain ⟨v, hv, rfl⟩ := mem_sortItems hw
    exact ih v hv
  | obj _ ih =>
    refine .obj fun e he => ?_
    obtain ⟨f, hf, rfl⟩ := mem_sortEntries he
    exact ih f hf

theorem Writable.canonical {v : Value} (h : v.Writable) : ∃ c, Json.canonical v = .ok c := by
  obtain ⟨cs, hcs⟩ := Json.writeChars_ok h.sortKeys
  have htext : Json.canonicalText v = .ok (String.ofList cs) := by
    rw [Json.canonicalText, Json.write, hcs]
    rfl
  exact ⟨_, except_bind_ok.2 ⟨_, htext, rfl⟩⟩

end Value

/-! ## Reading -/

theorem toNat_of_isDigit {c : Char} (h : c.isDigit = true) : c.toNat - '0'.toNat < 10 := by
  simp only [Char.isDigit, ge_iff_le, Bool.and_eq_true, decide_eq_true_eq, UInt32.le_iff_toNat_le] at h
  have hle : c.toNat ≤ 57 := h.2
  have hzero : '0'.toNat = 48 := rfl
  omega

theorem Decimal.natOfDigits_lt {digits : List Char} (h : ∀ c ∈ digits, c.isDigit = true) :
    natOfDigits digits < 10 ^ digits.length := by
  -- with what has been read before in front
  have hfold : ∀ n, digits.foldl (fun n c => 10 * n + (c.toNat - '0'.toNat)) n < 10 ^ digits.length * (n + 1) := by
    induction digits with
    | nil => simp
    | cons c digits ih =>
      intro n
      obtain ⟨hc, hdigits⟩ := List.forall_mem_cons.1 h
      have hdigit := toNat_of_isDigit hc
      calc digits.foldl _ (10 * n + (c.toNat - '0'.toNat))
        _ < 10 ^ digits.length * (10 * n + (c.toNat - '0'.toNat) + 1) := ih hdigits _
        _ ≤ 10 ^ digits.length * (10 * (n + 1)) := Nat.mul_le_mul_left _ (by omega)
        _ = 10 ^ (digits.length + 1) * (n + 1) := by rw [pow_succ, Nat.mul_assoc]
  have hlt := hfold 0
  rw [Nat.zero_add, Nat.mul_one] at hlt
  exact hlt

namespace Json

theorem wholeDigits_digits {cs whole rest : List Char} (h : wholeDigits cs = (whole, rest)) :
    ∀ c ∈ whole, c.isDigit = true := by
  unfold wholeDigits at h
  split at h
  · cases h
    exact List.forall_mem_singleton.2 rfl
  · rw [digitsOf, List.span_eq_takeWhile_dropWhile] at h
    cases h
    exact List.all_eq_true.1 List.all_takeWhile

theorem numeral?_digits {cs rest : List Char} {n : Numeral} (h : numeral? cs = some (n, rest)) :
    n.whole ≠ [] ∧ ∀ c ∈ n.whole, c.isDigit = true := by
  unfold numeral? at h
  simp only at h
  split at h
  · cases h
  · next hne hw =>
    cases h
    exact ⟨hne, wholeDigits_digits hw⟩

/-- A number that is read has no more digits than it was read from. -/
theorem writable_number {n : Numeral} (hne : n.whole ≠ []) (hd : ∀ c ∈ n.whole, c.isDigit = true) {m : Number}
    (h : n.number = .ok m) : (Value.num m).Writable := by
  unfold Numeral.number at h
  split at h
  · split at h
    · next hlimit =>
      cases h
      refine .int (Nat.le_trans ?_ hlimit)
      have hlength := Nat.toDigits_length 10 _ _ (List.length_pos_iff.2 hne) (Decimal.natOfDigits_lt hd)
      split
      · rw [Int.natAbs_neg]
        exact hlength
      · exact hlength
    · cases h
  · cases h
    exact .float _

theorem writable_scalar {cs rest : List Char} {v : Value} (h : scalar cs = .ok (v, rest)) : v.Writable := by
  rcases scalar_ok h with ⟨w, hw⟩ | ⟨n, m, hn, hm, rfl⟩
  · simp only [words, List.mem_cons, List.not_mem_nil, or_false, Prod.mk.injEq] at hw
    rcases hw with ⟨_, rfl⟩ | ⟨_, rfl⟩ | ⟨_, rfl⟩ | ⟨_, rfl⟩ | ⟨_, rfl⟩ | ⟨_, rfl⟩
    · exact .null
    · exact .bool true
    · exact .bool false
    · exact .float _
    · exact .float _
    · exact .float _
  · obtain ⟨hne, hd⟩ := numeral?_digits hn
    exact writable_number hne hd hm

theorem kept_writable : Kept Value.Writable where
  scalar := writable_scalar
  text := .str
  list _ := .arr .list
  object _ _ := .obj

end Json

namespace FileEntry

variable {path : String} {entry : FileEntry} {x : Value}

/-- Every value that is read from a file can be written. -/
theorem writable_of_value (h : entry.value path = .ok x) : x.Writable := by
  have hreads := entry.value_reads path
  rw [h] at hreads
  cases hreads with
  | value hread _ => exact Json.kept_writable.of_read hread

theorem canonical_of_value (h : entry.value path = .ok x) : ∃ c, Json.canonical x = .ok c :=
  (writable_of_value h).canonical

end FileEntry

end Conformance
