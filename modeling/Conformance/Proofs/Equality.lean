import Conformance.Value.Equality
import Mathlib.Data.List.Forall2
/-!
# What equal values share

A value is the same as another one when they agree part by part. Where no object has a key twice, this is
what it should be: the same value can stand in for the other in every comparison, and what one finds under a
key the other finds under it, too.
-/

namespace Conformance

namespace Entries

variable {α : Type}

theorem has_iff {key : String} {entries : List (String × α)} :
    has key entries = true ↔ ∃ value, entries.lookup key = some value := Option.isSome_iff_exists

theorem has_iff_mem {key : String} {entries : List (String × α)} :
    has key entries = true ↔ key ∈ entries.map Prod.fst := by
  rw [has_iff]
  induction entries with
  | nil => simp
  | cons e rest ih =>
    obtain ⟨k, v⟩ := e
    rw [lookup_cons, List.map_cons, List.mem_cons, ← ih]
    split
    · next hk => exact iff_of_true ⟨v, rfl⟩ (.inl hk)
    · next hk => exact (or_iff_right hk).symm

/-- Where no key stands twice, every entry is the one that is found. -/
theorem lookup_of_mem {key : String} {value : α} {entries : List (String × α)}
    (hk : (entries.map Prod.fst).Nodup) (h : (key, value) ∈ entries) : entries.lookup key = some value := by
  induction entries with
  | nil => cases h
  | cons e rest ih =>
    obtain ⟨k, v⟩ := e
    obtain ⟨hnew, hrest⟩ := List.nodup_cons.1 hk
    rw [lookup_cons]
    rcases List.mem_cons.1 h with he | h
    · cases he; rw [if_pos rfl]
    · rw [if_neg, ih hrest h]
      intro he
      exact hnew (List.mem_map.2 ⟨_, h, he⟩)

end Entries

namespace Value

/-- No object inside has a key twice. -/
inductive Keyed : Value → Prop
  | null : Keyed .null
  | bool (b : Bool) : Keyed (.bool b)
  | num (n : Number) : Keyed (.num n)
  | str (s : String) : Keyed (.str s)
  | arr (s : Sequence) {items : List Value} (h : ∀ x ∈ items, Keyed x) : Keyed (.arr s items)
  | obj {entries : List (String × Value)} (hk : (entries.map Prod.fst).Nodup)
    (h : ∀ e ∈ entries, Keyed e.2) : Keyed (.obj entries)
  | foreign (id : Foreign) (text : Option String) : Keyed (.foreign id text)

variable {x y : Value} {xs ys : List Value} {es fs : List (String × Value)}

/-! ## Part by part -/

theorem sameItems_iff : sameItems xs ys = true ↔ List.Forall₂ (fun x y => x.same y = true) xs ys := by
  induction xs generalizing ys with
  | nil => cases ys <;> simp [sameItems]
  | cons x xs ih => cases ys <;> simp [sameItems, ih]

theorem sameEntries_iff :
    sameEntries es fs = true ↔ ∀ e ∈ es, ∃ y, fs.lookup e.1 = some y ∧ e.2.same y = true := by
  induction es with
  | nil => simp [sameEntries]
  | cons e es ih =>
    rw [sameEntries, Bool.and_eq_true, ih, List.forall_mem_cons]
    refine and_congr_left' ?_
    cases fs.lookup e.1 <;> simp

theorem same_arr {s t : Sequence} :
    same (.arr s xs) (.arr t ys) = true ↔ List.Forall₂ (fun x y => x.same y = true) xs ys := sameItems_iff

/-- The keys are the same, and every entry has its equal. -/
theorem same_obj : same (.obj es) (.obj fs) = true ↔
    (∀ f ∈ fs, Entries.has f.1 es = true) ∧ ∀ e ∈ es, ∃ y, fs.lookup e.1 = some y ∧ e.2.same y = true := by
  rw [same, Bool.and_eq_true, sameEntries_iff, List.all_eq_true]

/-- Only an array is the same as an array. -/
theorem same_arr_left {s : Sequence} (h : same (.arr s xs) y = true) :
    ∃ t ys, y = .arr t ys ∧ List.Forall₂ (fun x y => x.same y = true) xs ys := by
  cases y with
  | arr t ys => exact ⟨t, ys, rfl, same_arr.1 h⟩
  | _ => cases h

theorem same_obj_left (h : same (.obj es) y = true) : ∃ fs, y = .obj fs ∧ same (.obj es) (.obj fs) = true := by
  cases y with
  | obj fs => exact ⟨fs, rfl, h⟩
  | _ => cases h

theorem kind?_of_same (h : x.same y = true) : x.kind? = y.kind? := by
  cases x <;> cases y <;> first | rfl | cases h

/-! ## Entries of equal objects -/

theorem lookup_of_same {key : String} (h : same (.obj es) (.obj fs) = true) (hx : es.lookup key = some x) :
    ∃ y, fs.lookup key = some y ∧ x.same y = true :=
  (same_obj.1 h).2 (key, x) (Entries.mem_of_lookup hx)

theorem has_of_same (h : same (.obj es) (.obj fs) = true) (key : String) :
    Entries.has key es = Entries.has key fs := by
  rw [Bool.eq_iff_iff]
  constructor
  · intro hk
    obtain ⟨x, hx⟩ := Entries.has_iff.1 hk
    obtain ⟨y, hy, _⟩ := lookup_of_same h hx
    exact Entries.has_iff.2 ⟨y, hy⟩
  · intro hk
    obtain ⟨y, hy⟩ := Entries.has_iff.1 hk
    exact (same_obj.1 h).1 (key, y) (Entries.mem_of_lookup hy)

/-- Under every key both objects have nothing, or the same value. -/
theorem lookup_same (h : same (.obj es) (.obj fs) = true) (key : String) :
    (es.lookup key = none ∧ fs.lookup key = none) ∨
      ∃ x y, es.lookup key = some x ∧ fs.lookup key = some y ∧ x.same y = true := by
  cases hx : es.lookup key with
  | some x =>
    obtain ⟨y, hy, hs⟩ := lookup_of_same h hx
    exact .inr ⟨x, y, rfl, hy, hs⟩
  | none =>
    have hk := has_of_same h key
    rw [Entries.has, Entries.has, hx] at hk
    exact .inl ⟨rfl, Option.not_isSome_iff_eq_none.1 fun hs => by rw [hs] at hk; cases hk⟩

/-! ## One value for another -/

theorem sameItems_congr (h : List.Forall₂ (fun x y => x.same y = true) xs ys)
    (ih : ∀ x ∈ xs, ∀ y ∈ ys, x.same y = true → ∀ e, x.same e = y.same e) (zs : List Value) :
    sameItems xs zs = sameItems ys zs := by
  induction h generalizing zs with
  | nil => rfl
  | @cons x y xs ys hxy _ ihs =>
    cases zs with
    | nil => rfl
    | cons z zs =>
      unfold sameItems
      rw [ih x List.mem_cons_self y List.mem_cons_self hxy z]
      rw [ihs fun x hx y hy => ih x (List.mem_cons_of_mem _ hx) y (List.mem_cons_of_mem _ hy)]

/-- Only the entries that the second object finds under its own keys count, so they must be all of them. -/
theorem same_obj_congr (hk : (fs.map Prod.fst).Nodup) (h : same (.obj es) (.obj fs) = true)
    (ih : ∀ e ∈ es, ∀ f ∈ fs, e.2.same f.2 = true → ∀ z, e.2.same z = f.2.same z) (gs : List (String × Value)) :
    same (.obj es) (.obj gs) = same (.obj fs) (.obj gs) := by
  -- entries that stand under one key are the same, and have the same equals
  have hpair : ∀ {key x y}, (key, x) ∈ es → fs.lookup key = some y → x.same y = true →
      ∀ z, x.same z = y.same z := fun hx hy hs => ih _ hx _ (Entries.mem_of_lookup hy) hs
  rw [Bool.eq_iff_iff, same_obj, same_obj]
  refine and_congr ?_ ?_
  · exact forall₂_congr fun g _ => by rw [has_of_same h]
  constructor
  · rintro hes ⟨key, y⟩ hy
    have hl := Entries.lookup_of_mem hk hy
    obtain ⟨x, hx⟩ := Entries.has_iff.1 ((same_obj.1 h).1 _ hy)
    obtain ⟨y', hy', hs⟩ := lookup_of_same h hx
    cases hl.symm.trans hy'
    obtain ⟨z, hz, hsz⟩ := hes _ (Entries.mem_of_lookup hx)
    exact ⟨z, hz, by rw [← hpair (Entries.mem_of_lookup hx) hy' hs]; exact hsz⟩
  · rintro hfs ⟨key, x⟩ hx
    obtain ⟨y, hy, hs⟩ := (same_obj.1 h).2 _ hx
    obtain ⟨z, hz, hsz⟩ := hfs _ (Entries.mem_of_lookup hy)
    exact ⟨z, hz, by rw [hpair hx hy hs]; exact hsz⟩

/-- Equal values have the same equals. -/
theorem same_congr {x y : Value} (hy : y.Keyed) (h : x.same y = true) (z : Value) : x.same z = y.same z := by
  induction hy generalizing x z with
  | null => cases x <;> first | rfl | cases h
  | bool b =>
    cases x with
    | bool a => rw [eq_of_beq (show (a == b) = true from h)]
    | _ => cases h
  | num n =>
    cases x with
    | num m =>
      obtain ⟨v, hm, hn⟩ := Number.same_iff.1 (show m.same n = true from h)
      cases z with
      | num k => show m.same k = n.same k; rw [Number.same, Number.same, hm, hn]
      | _ => rfl
    | _ => cases h
  | str s =>
    cases x with
    | str r => rw [eq_of_beq (show (r == s) = true from h)]
    | _ => cases h
  | foreign j _ =>
    cases x with
    | foreign i _ =>
      cases eq_of_beq (show (i == j) = true from h)
      cases z <;> rfl
    | _ => cases h
  | arr t _ ih =>
    cases x with
    | arr s xs =>
      cases z with
      | arr u zs => exact sameItems_congr (same_arr.1 h) (fun _ _ y hy hs => ih y hy hs) zs
      | _ => rfl
    | _ => cases h
  | obj hk _ ih =>
    cases x with
    | obj es =>
      cases z with
      | obj gs => exact same_obj_congr hk h (fun _ _ f hf hs => ih f hf hs) gs
      | _ => rfl
    | _ => cases h

end Value

end Conformance
