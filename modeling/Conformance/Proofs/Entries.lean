import Conformance.Proofs.Spelling
/-!
# Entries laid over others

Entries in which no key stands twice are told by their keys, in order, and by what is found under each. So it is
enough to look at both to see what comes out where entries are laid over others: below keys keep their places, and
above values win.
-/

namespace Conformance

namespace Entries

variable {α : Type} {key : String} {value : α} {entries entries' base more : List (String × α)}

theorem keys_insert (key : String) (value : α) (entries : List (String × α)) :
    (insert key value entries).map Prod.fst =
      if key ∈ entries.map Prod.fst then entries.map Prod.fst else entries.map Prod.fst ++ [key] := by
  induction entries with
  | nil => rfl
  | cons e entries ih =>
    obtain ⟨k, v⟩ := e
    by_cases hk : k = key
    · subst hk
      simp [insert]
    · have hk' : key ≠ k := fun h => hk h.symm
      by_cases hm : key ∈ entries.map Prod.fst
      · simp only [insert, hk, if_false, List.map_cons, ih, hm, if_true, List.mem_cons, or_true]
      · simp only [insert, hk, if_false, List.map_cons, ih, hm, List.mem_cons, hk', or_false, List.cons_append]

/-- What is laid over keeps the keys below in their order, and puts the other ones behind them. -/
theorem keys_merge (hm : (more.map Prod.fst).Nodup) : (merge base more).map Prod.fst =
    base.map Prod.fst ++ (more.map Prod.fst).filter (· ∉ base.map Prod.fst) := by
  induction more generalizing base with
  | nil => simp [merge]
  | cons e more ih =>
    obtain ⟨k, v⟩ := e
    obtain ⟨hnew, hm⟩ := List.nodup_cons.1 hm
    rw [merge_cons, ih hm, List.map_cons, List.filter_cons, keys_insert]
    by_cases hk : k ∈ base.map Prod.fst
    · rw [if_pos hk, if_neg (by simpa using hk)]
    · -- the new key is not met again
      have hfilter : (more.map Prod.fst).filter (· ∉ base.map Prod.fst ++ [k]) =
          (more.map Prod.fst).filter (· ∉ base.map Prod.fst) := by
        refine List.filter_congr fun key hkey => ?_
        have hne : key ≠ k := fun h => hnew (h ▸ hkey)
        simp [hne]
      rw [if_neg hk, hfilter, if_pos (decide_eq_true hk), List.append_assoc]
      rfl

/-- Entries are told by their keys, in order, and what is found under each. -/
theorem ext_lookup (hk : (entries.map Prod.fst).Nodup) (hkeys : entries'.map Prod.fst = entries.map Prod.fst)
    (h : ∀ key, entries'.lookup key = entries.lookup key) : entries' = entries := by
  have hspell : ∀ es : List (String × α), (es.map Prod.fst).Nodup →
      es.map (fun e => (e.1, some e.2)) = (es.map Prod.fst).map fun key => (key, es.lookup key) := by
    intro es hk
    rw [List.map_map]
    refine List.map_congr_left fun e he => ?_
    show (e.1, some e.2) = (e.1, es.lookup e.1)
    rw [lookup_of_mem hk he]
  have hsome : Function.Injective fun e : String × α => (e.1, some e.2) := by
    rintro ⟨k, v⟩ ⟨k', v'⟩ he
    obtain ⟨rfl, hv⟩ := Prod.mk.inj he
    cases hv
    rfl
  refine List.map_injective_iff.2 hsome ?_
  show entries'.map _ = entries.map _
  rw [hspell entries' (hkeys ▸ hk), hspell entries hk, hkeys]
  simp only [h]

theorem lookup_reverse (hk : (entries.map Prod.fst).Nodup) (key : String) :
    entries.reverse.lookup key = entries.lookup key := lookup_perm (List.reverse_perm entries).symm hk key

theorem lookup_merge_of_nodup (hm : (more.map Prod.fst).Nodup) (key : String) :
    (merge base more).lookup key = (more.lookup key).or (base.lookup key) := by
  rw [lookup_merge, lookup_reverse hm]

theorem merge_nil (hm : (more.map Prod.fst).Nodup) : merge [] more = more := by
  refine ext_lookup hm ?_ fun key => ?_
  · rw [keys_merge hm]
    simp
  · rw [lookup_merge_of_nodup hm]
    exact Option.or_none

/-- To lay over once more what came out changes nothing. -/
theorem merge_merge (hb : (base.map Prod.fst).Nodup) (hm : (more.map Prod.fst).Nodup) :
    merge base (merge base more) = merge base more := by
  have hmerge : ((merge base more).map Prod.fst).Nodup := nodup_merge hb
  refine ext_lookup hmerge ?_ fun key => ?_
  · rw [keys_merge hmerge, keys_merge hm, List.filter_append, List.filter_filter]
    simp
  · rw [lookup_merge_of_nodup hmerge, lookup_merge_of_nodup hm]
    cases more.lookup key <;> cases base.lookup key <;> rfl

theorem without_insert (key : String) (value : α) (entries : List (String × α)) :
    without key (insert key value entries) = without key entries := by
  induction entries with
  | nil => simp [insert, without]
  | cons e entries ih =>
    obtain ⟨k, v⟩ := e
    unfold without at ih ⊢
    by_cases hk : k = key
    · simp [insert, hk]
    · simp only [insert, hk, if_false, List.filter_cons, ih]

theorem without_without (key : String) (entries : List (String × α)) :
    without key (without key entries) = without key entries := by
  simp [without, List.filter_filter]

theorem lookup_without_self (key : String) (entries : List (String × α)) :
    (without key entries).lookup key = none := by
  rw [without, lookup_filter fun k => decide (k ≠ key), if_neg (by simp)]

end Entries

end Conformance
