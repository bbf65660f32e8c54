import Conformance.Json.Reader
import Conformance.Proofs.Equality
import Conformance.Proofs.Run
/-!
# Values that are read

What holds of the scalars and texts that are read, and is kept by lists and objects, holds of every value that is
read from a text. A repeated key is put in the place of the first one, so no object in such a value has a key twice.
-/

namespace Conformance

/-! ## Keys -/

namespace Entries

variable {α : Type} {entries : List (String × α)}

theorem mem_insert {key : String} {value : α} {e : String × α} (h : e ∈ insert key value entries) :
    e = (key, value) ∨ e ∈ entries := by
  induction entries with
  | nil => exact .inl (List.mem_singleton.1 h)
  | cons f rest ih =>
    obtain ⟨k, v⟩ := f
    rw [insert] at h
    split at h
    · rcases List.mem_cons.1 h with rfl | h
      · exact .inl rfl
      · exact .inr (List.mem_cons_of_mem _ h)
    · rcases List.mem_cons.1 h with rfl | h
      · exact .inr List.mem_cons_self
      · exact (ih h).imp_right (List.mem_cons_of_mem _)

theorem nodup_insert {key : String} {value : α} (h : (entries.map Prod.fst).Nodup) :
    ((insert key value entries).map Prod.fst).Nodup := by
  induction entries with
  | nil => exact List.nodup_cons.2 ⟨List.not_mem_nil, List.nodup_nil⟩
  | cons f rest ih =>
    obtain ⟨k, v⟩ := f
    obtain ⟨hnew, hrest⟩ := List.nodup_cons.1 h
    rw [insert]
    split
    · next hk =>
      subst hk
      exact List.nodup_cons.2 ⟨hnew, hrest⟩
    · next hk =>
      refine List.nodup_cons.2 ⟨?_, ih hrest⟩
      intro hmem
      obtain ⟨e, he, hek⟩ := List.mem_map.1 hmem
      rcases mem_insert he with rfl | he
      · exact hk hek.symm
      · exact hnew (List.mem_map.2 ⟨e, he, hek⟩)

theorem merge_cons (base : List (String × α)) (e : String × α) (more : List (String × α)) :
    merge base (e :: more) = merge (insert e.1 e.2 base) more := rfl

theorem mem_merge {base more : List (String × α)} {e : String × α} (h : e ∈ merge base more) : e ∈ base ∨ e ∈ more := by
  induction more generalizing base with
  | nil => exact .inl h
  | cons f more ih =>
    rw [merge_cons] at h
    rcases ih h with h | h
    · rcases mem_insert h with rfl | h
      · exact .inr List.mem_cons_self
      · exact .inl h
    · exact .inr (List.mem_cons_of_mem _ h)

theorem nodup_merge {base more : List (String × α)} (h : (base.map Prod.fst).Nodup) :
    ((merge base more).map Prod.fst).Nodup := by
  induction more generalizing base with
  | nil => exact h
  | cons f more ih => exact ih (nodup_insert h)

end Entries

namespace Json

/-- A scalar is one of the words or a number. -/
theorem scalar_ok {cs rest : List Char} {v : Value} (h : scalar cs = .ok (v, rest)) :
    (∃ w, (w, v) ∈ words) ∨ ∃ n m, numeral? cs = some (n, rest) ∧ n.number = .ok m ∧ v = .num m := by
  unfold scalar at h
  split at h
  · next read hw =>
    cases h
    obtain ⟨⟨w, u⟩, hfind, hread⟩ := Option.map_eq_some_iff.1 hw
    cases hread
    exact .inl ⟨w, List.mem_of_find?_eq_some hfind⟩
  · split at h
    · next n left hn =>
      obtain ⟨m, hm, h⟩ := except_bind_ok.1 h
      cases h
      exact .inr ⟨n, m, hn, hm, rfl⟩
    · cases h

theorem keyed_scalar {cs rest : List Char} {v : Value} (h : scalar cs = .ok (v, rest)) : v.Keyed := by
  rcases scalar_ok h with ⟨w, hw⟩ | ⟨_, m, _, _, rfl⟩
  · simp only [words, List.mem_cons, List.not_mem_nil, or_false, Prod.mk.injEq] at hw
    rcases hw with ⟨_, rfl⟩ | ⟨_, rfl⟩ | ⟨_, rfl⟩ | ⟨_, rfl⟩ | ⟨_, rfl⟩ | ⟨_, rfl⟩
    · exact .null
    · exact .bool true
    · exact .bool false
    · exact .num _
    · exact .num _
    · exact .num _
  · exact .num m

/-- The property holds of scalars and of texts, and of lists and objects if it does of what stands in them. -/
structure Kept (P : Value → Prop) : Prop where
  scalar : ∀ {cs rest v}, scalar cs = .ok (v, rest) → P v
  text : ∀ s, P (.str s)
  list : ∀ items, (∀ x ∈ items, P x) → P (.list items)
  object : ∀ entries, (entries.map Prod.fst).Nodup → (∀ e ∈ entries, P e.2) → P (.obj entries)

section Kept

variable {P : Value → Prop} {alone : Except Stop Char}

mutual

theorem Kept.readValue (hP : Kept P) : ∀ {fuel : Nat} {cs rest : List Char} {v : Value},
    readValue alone fuel cs = .ok (v, rest) → P v
  | 0, _, _, _, h => by cases h
  | fuel + 1, cs, rest, v, h => by
    unfold Json.readValue at h
    split at h
    · cases h
    · obtain ⟨_, _, h⟩ := except_bind_ok.1 h
      cases h
      exact hP.text _
    · split at h
      · cases h
        exact hP.list [] nofun
      · obtain ⟨⟨items, rest⟩, hitems, h⟩ := except_bind_ok.1 h
        cases h
        exact hP.list items (Kept.readItems hP hitems)
    · split at h
      · cases h
        exact hP.object [] List.nodup_nil nofun
      · obtain ⟨⟨entries, rest⟩, hentries, h⟩ := except_bind_ok.1 h
        cases h
        refine hP.object _ (Entries.nodup_merge List.nodup_nil) fun e he => ?_
        rcases Entries.mem_merge he with he | he
        · cases he
        · exact Kept.readEntries hP hentries e he
    · exact hP.scalar h

theorem Kept.readItems (hP : Kept P) : ∀ {fuel : Nat} {cs rest : List Char} {items : List Value},
    readItems alone fuel cs = .ok (items, rest) → ∀ x ∈ items, P x
  | 0, _, _, _, h => by cases h
  | fuel + 1, cs, rest, items, h => by
    unfold Json.readItems at h
    obtain ⟨⟨v, left⟩, hv, h⟩ := except_bind_ok.1 h
    have hkept := Kept.readValue hP hv
    simp only at h
    split at h
    · cases h
      exact List.forall_mem_singleton.2 hkept
    · obtain ⟨⟨others, rest⟩, hothers, h⟩ := except_bind_ok.1 h
      cases h
      exact List.forall_mem_cons.2 ⟨hkept, Kept.readItems hP hothers⟩
    · cases h

theorem Kept.readEntries (hP : Kept P) : ∀ {fuel : Nat} {cs rest : List Char} {entries : List (String × Value)},
    readEntries alone fuel cs = .ok (entries, rest) → ∀ e ∈ entries, P e.2
  | 0, _, _, _, h => by cases h
  | fuel + 1, cs, rest, entries, h => by
    unfold Json.readEntries at h
    split at h
    · cases h
    · obtain ⟨⟨name, left⟩, _, h⟩ := except_bind_ok.1 h
      simp only at h
      split at h
      · obtain ⟨⟨v, left⟩, hv, h⟩ := except_bind_ok.1 h
        have hkept := Kept.readValue hP hv
        simp only at h
        split at h
        · cases h
          exact List.forall_mem_singleton.2 hkept
        · obtain ⟨⟨others, rest⟩, hothers, h⟩ := except_bind_ok.1 h
          cases h
          exact List.forall_mem_cons.2 ⟨hkept, Kept.readEntries hP hothers⟩
        · cases h
      · cases h
    · cases h

end

theorem Kept.readDocument (hP : Kept P) {cs : List Char} {v : Value} (h : readDocument alone cs = .ok v) : P v := by
  unfold Json.readDocument at h
  split at h
  · cases h
  · obtain ⟨⟨w, rest⟩, hw, h⟩ := except_bind_ok.1 h
    simp only at h
    split at h
    · cases h
      exact hP.readValue hw
    · cases h

theorem Kept.of_read (hP : Kept P) {cs : List Char} {v : Value} (h : readChars cs = .ok v) : P v := by
  obtain ⟨_, _, h⟩ := except_bind_ok.1 h
  cases hd : Json.readDocument (throw .surrogate) cs with
  | error e => rw [hd] at h; cases h
  | ok u =>
    rw [hd] at h
    cases h
    exact hP.readDocument hd

end Kept

theorem kept_keyed : Kept Value.Keyed where
  scalar := keyed_scalar
  text := .str
  list _ := .arr .list
  object _ := .obj

/-- No object in a value that was read has a key twice. -/
theorem keyed_of_read {cs : List Char} {v : Value} (h : readChars cs = .ok v) : v.Keyed := kept_keyed.of_read h

end Json

end Conformance
