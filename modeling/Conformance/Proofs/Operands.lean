import Conformance.Proofs.Equality
import Conformance.Proofs.Rationals
import Conformance.Value.Operand
/-!
# Comparing operands

One comparison of two operands has one of a few outcomes. They clash, when a signalling decimal is compared with a
number or when something is called an array or an object and is not made like one. They differ or agree as far as
they can be told apart without their parts. Or both are arrays, or both objects, and then their parts are compared,
of which all must be equal. Values never clash.
-/

namespace Conformance

namespace Operand

/-! ## Arrays and objects -/

/-- The items of what is called an array. -/
def list? (x : Operand) : Option (List Operand) := if x.kindName = Kind.array.name then x.items? else none

variable {x y z : Operand} {xs ys : List Operand} {es fs : List (String × Operand)}

theorem entries?_eq_some : x.entries? = some es ↔ x = .obj es := by
  cases x <;> simp [entries?]

/-- What is called an array and has items is an array, or an object of a class of that name. -/
theorem list?_eq_some : x.list? = some xs ↔ (∃ s, x = .arr s xs) ∨ ∃ i, x = .row i Kind.array.name xs := by
  cases x with
  | arr s items => simp [list?, kindName, items?]
  | row i typeName items =>
    by_cases ht : typeName = Kind.array.name
    · simp [list?, kindName, items?, ht]
    · simp [list?, kindName, ht]
  | _ => simp [list?, items?]

theorem kindName_of_list? (h : x.list? = some xs) : x.kindName = Kind.array.name := by
  obtain ⟨s, rfl⟩ | ⟨i, rfl⟩ := list?_eq_some.1 h <;> rfl

theorem list?_of_kindName (h : x.kindName = Kind.array.name) : x.list? = x.items? := if_pos h

theorem list?_row {typeName : String} (h : typeName ≠ Kind.array.name) (i : Nat) (xs : List Operand) :
    (row i typeName xs).list? = none := if_neg h

theorem list?_foreign (i : Nat) (typeName : String) : (foreign i typeName).list? = none := ite_self _

/-! ## Comparing before the parts -/

/-- The operands agree as far as they can be told apart without their parts. -/
inductive Meets : Operand → Operand → Prop
  | null : Meets .null .null
  | bool (b : Bool) : Meets (.bool b) (.bool b)
  | num {a b : Number} (h : a.Equals b) : Meets (.num a) (.num b)
  | str (s : String) : Meets (.str s) (.str s)
  | list {x y : Operand} {xs ys : List Operand} (hx : x.list? = some xs) (hy : y.list? = some ys)
    (h : xs.length = ys.length) : Meets x y
  | obj {es fs : List (String × Operand)} (h : ∀ key, Entries.has key es = Entries.has key fs) :
    Meets (.obj es) (.obj fs)
  | foreign (number : Nat) {typeName : String} (ha : typeName ≠ Kind.array.name) (ho : typeName ≠ Kind.object.name) :
    Meets (.foreign number typeName) (.foreign number typeName)
  | row (number : Nat) {typeName : String} (ha : typeName ≠ Kind.array.name) (ho : typeName ≠ Kind.object.name)
    (xs ys : List Operand) : Meets (.row number typeName xs) (.row number typeName ys)

/-- A number, or the decimal that signals. -/
inductive Numeric : Operand → Prop
  | num (n : Number) : Numeric (.num n)
  | signalling : Numeric .signalling

/-- Why two operands cannot be compared. -/
inductive Clash : Operand → Operand → Mishap → Prop
  | signal {x y : Operand} (hx : x.Numeric) (hy : y.Numeric) (h : x = .signalling ∨ y = .signalling) : Clash x y .signal
  | noLength {x y : Operand} (hx : x.kindName = Kind.array.name) (hy : y.kindName = Kind.array.name)
    (h : x.items? = none ∨ y.items? = none) : Clash x y .noLength
  | noKeys {x y : Operand} (hx : x.kindName = Kind.object.name) (hy : y.kindName = Kind.object.name)
    (h : x.entries? = none ∨ y.entries? = none) : Clash x y .noKeys

/-! ## One comparison -/

theorem equal_of_kindName_ne (h : x.kindName ≠ y.kindName) : equal x y = .ok false := by
  rw [equal.eq_def, if_pos h]
  rfl

theorem equal_list (hx : x.list? = some xs) (hy : y.list? = some ys) :
    equal x y = if xs.length = ys.length then equalItems xs ys else .ok false := by
  have hk := (kindName_of_list? hx).trans (kindName_of_list? hy).symm
  have hy' : y.items? = some ys := (list?_of_kindName (kindName_of_list? hy)).symm.trans hy
  rw [equal.eq_def, if_neg (not_not.2 hk), if_pos (kindName_of_list? hx), hy']
  obtain ⟨_, rfl⟩ | ⟨_, rfl⟩ := list?_eq_some.1 hx <;> rfl

theorem equal_obj : equal (.obj es) (.obj fs) = if sameKeys es fs then equalEntries es fs else .ok false := rfl

theorem equal_alike (hk : x.kindName = y.kindName) (ha : x.kindName ≠ Kind.array.name)
    (ho : x.kindName ≠ Kind.object.name) : equal x y = alike x y := by
  rw [equal.eq_def, if_neg (not_not.2 hk), if_neg ha, if_neg ho]

theorem ok_cases {P : Prop} {r : Except Mishap Bool} {b : Bool} (hr : r = .ok b) (h : b = true → P) :
    r = .ok false ∨ P ∧ r = .ok true := by
  cases b with
  | false => exact .inl hr
  | true => exact .inr ⟨h rfl, hr⟩

/-- Operands of one kind that are not called arrays or objects clash, or are told apart as they stand. -/
theorem alike_cases (hk : x.kindName = y.kindName) (ha : x.kindName ≠ Kind.array.name)
    (ho : x.kindName ≠ Kind.object.name) :
    (∃ m, Clash x y m ∧ alike x y = .error m) ∨ alike x y = .ok false ∨ Meets x y ∧ alike x y = .ok true := by
  cases x with
  | null =>
    cases y with
    | null => exact .inr (.inr ⟨.null, rfl⟩)
    | _ => exact .inr (.inl rfl)
  | bool a =>
    cases y with
    | bool b => exact .inr (ok_cases rfl fun h => eq_of_beq h ▸ .bool a)
    | _ => exact .inr (.inl rfl)
  | num a =>
    cases y with
    | num b => exact .inr (ok_cases rfl fun h => .num (Number.same_iff_equals.1 h))
    | signalling => exact .inl ⟨_, .signal (.num a) .signalling (.inr rfl), rfl⟩
    | _ => exact .inr (.inl rfl)
  | signalling =>
    cases y with
    | num b => exact .inl ⟨_, .signal .signalling (.num b) (.inl rfl), rfl⟩
    | signalling => exact .inl ⟨_, .signal .signalling .signalling (.inl rfl), rfl⟩
    | _ => exact .inr (.inl rfl)
  | str a =>
    cases y with
    | str b => exact .inr (ok_cases rfl fun h => eq_of_beq h ▸ .str a)
    | _ => exact .inr (.inl rfl)
  | arr s xs => exact absurd rfl ha
  | obj es => exact absurd rfl ho
  | foreign i typeName =>
    cases y with
    | foreign j typeName' =>
      cases (show typeName = typeName' from hk)
      exact .inr (ok_cases rfl fun h => eq_of_beq h ▸ .foreign i ha ho)
    | _ => exact .inr (.inl rfl)
  | row i typeName xs =>
    cases y with
    | row j typeName' ys =>
      cases (show typeName = typeName' from hk)
      exact .inr (ok_cases rfl fun h => eq_of_beq h ▸ .row i ha ho xs ys)
    | _ => exact .inr (.inl rfl)

/-- What a comparison comes to: the operands clash or differ before their parts, or their parts decide. -/
theorem equal_cases (x y : Operand) : (∃ m, Clash x y m ∧ equal x y = .error m) ∨ equal x y = .ok false ∨
    (∃ xs ys, x.list? = some xs ∧ y.list? = some ys) ∨ (∃ es fs, x = .obj es ∧ y = .obj fs) ∨
      Meets x y ∧ equal x y = .ok true := by
  by_cases hk : x.kindName = y.kindName
  · by_cases ha : x.kindName = Kind.array.name
    · have hx := list?_of_kindName ha
      have hy := list?_of_kindName (hk.symm.trans ha)
      cases hxs : x.items? with
      | none =>
        refine .inl ⟨_, .noLength ha (hk.symm.trans ha) (.inl hxs), ?_⟩
        rw [equal.eq_def, if_neg (not_not.2 hk), if_pos ha]
        cases x with
        | arr _ _ => cases hxs
        | row _ _ _ => cases hxs
        | _ => rfl
      | some xs =>
        cases hys : y.items? with
        | none =>
          refine .inl ⟨_, .noLength ha (hk.symm.trans ha) (.inr hys), ?_⟩
          rw [equal.eq_def, if_neg (not_not.2 hk), if_pos ha, hys]
          cases x <;> rfl
        | some ys => exact .inr (.inr (.inl ⟨xs, ys, hx.trans hxs, hy.trans hys⟩))
    by_cases ho : x.kindName = Kind.object.name
    · cases hxs : x.entries? with
      | none =>
        refine .inl ⟨_, .noKeys ho (hk.symm.trans ho) (.inl hxs), ?_⟩
        rw [equal.eq_def, if_neg (not_not.2 hk), if_neg ha, if_pos ho]
        cases x with
        | obj _ => cases hxs
        | _ => rfl
      | some es =>
        cases hys : y.entries? with
        | none =>
          refine .inl ⟨_, .noKeys ho (hk.symm.trans ho) (.inr hys), ?_⟩
          rw [equal.eq_def, if_neg (not_not.2 hk), if_neg ha, if_pos ho, hys]
          cases x <;> rfl
        | some fs => exact .inr (.inr (.inr (.inl ⟨es, fs, entries?_eq_some.1 hxs, entries?_eq_some.1 hys⟩)))
    · rw [equal_alike hk ha ho]
      exact (alike_cases hk ha ho).imp_right (Or.imp_right fun h => .inr (.inr h))
  · exact .inr (.inl (equal_of_kindName_ne hk))

/-! ## Comparing the parts -/

section Chain

variable {r s : Except Mishap Bool} {m : Mishap}

theorem chain_true : (do if ← r then s else pure false) = .ok true ↔ r = .ok true ∧ s = .ok true := by
  cases r with
  | error m => exact iff_of_false nofun fun h => nomatch h.1
  | ok b =>
    cases b with
    | false => exact iff_of_false nofun fun h => nomatch h.1
    | true => exact (and_iff_right rfl).symm

theorem chain_error (h : (do if ← r then s else pure false) = .error m) : r = .error m ∨ s = .error m := by
  cases r with
  | error m' => exact .inl h
  | ok b =>
    cases b with
    | false => cases h
    | true => exact .inr h

end Chain

theorem equalItems_true (hl : xs.length = ys.length) :
    equalItems xs ys = .ok true ↔ List.Forall₂ (fun x y => equal x y = .ok true) xs ys := by
  induction xs generalizing ys with
  | nil =>
    cases ys with
    | nil => exact iff_of_true rfl .nil
    | cons y ys => cases hl
  | cons x xs ih =>
    cases ys with
    | nil => cases hl
    | cons y ys => rw [equalItems, chain_true, ih (Nat.succ.inj hl), List.forall₂_cons]

theorem equalItems_error {m : Mishap} (h : equalItems xs ys = .error m) :
    ∃ (i : Nat) (x y : Operand), xs[i]? = some x ∧ ys[i]? = some y ∧ equal x y = .error m := by
  induction xs generalizing ys with
  | nil => cases h
  | cons x xs ih =>
    cases ys with
    | nil => cases h
    | cons y ys =>
      rw [equalItems] at h
      rcases chain_error h with h | h
      · exact ⟨0, x, y, rfl, rfl, h⟩
      · obtain ⟨i, u, w, hu, hw, h⟩ := ih h
        exact ⟨i + 1, u, w, hu, hw, h⟩

theorem equalEntries_true :
    equalEntries es fs = .ok true ↔ ∀ e ∈ es, ∃ y, fs.lookup e.1 = some y ∧ equal e.2 y = .ok true := by
  induction es with
  | nil => exact iff_of_true rfl (List.forall_mem_nil _)
  | cons e es ih =>
    obtain ⟨k, x⟩ := e
    rw [equalEntries, List.forall_mem_cons]
    cases hl : fs.lookup k with
    | none => exact iff_of_false nofun fun h => by obtain ⟨⟨_, h, _⟩, _⟩ := h; cases h
    | some y =>
      rw [chain_true, ih]
      refine and_congr_left' ⟨fun h => ⟨y, rfl, h⟩, ?_⟩
      rintro ⟨_, hl', h⟩
      cases hl'
      exact h

theorem equalEntries_error {m : Mishap} (h : equalEntries es fs = .error m) :
    ∃ e ∈ es, ∃ y, fs.lookup e.1 = some y ∧ equal e.2 y = .error m := by
  induction es with
  | nil => cases h
  | cons e es ih =>
    obtain ⟨k, x⟩ := e
    rw [equalEntries] at h
    cases hl : fs.lookup k with
    | none => rw [hl] at h; cases h
    | some y =>
      rw [hl] at h
      rcases chain_error h with h | h
      · exact ⟨_, List.mem_cons_self, y, hl, h⟩
      · obtain ⟨e, he, hy⟩ := ih h
        exact ⟨e, List.mem_cons_of_mem _ he, hy⟩

theorem sameKeys_iff : sameKeys es fs = true ↔ ∀ key, Entries.has key es = Entries.has key fs := by
  simp only [sameKeys, Bool.and_eq_true, List.all_eq_true]
  constructor
  · rintro ⟨hes, hfs⟩ key
    refine Bool.eq_iff_iff.2 ⟨fun h => ?_, fun h => ?_⟩
    · obtain ⟨e, he, rfl⟩ := List.mem_map.1 (Entries.has_iff_mem.1 h)
      exact hes e he
    · obtain ⟨f, hf, rfl⟩ := List.mem_map.1 (Entries.has_iff_mem.1 h)
      exact hfs f hf
  · intro h
    constructor
    · intro e he
      rw [← h]
      exact Entries.has_iff_mem.2 (List.mem_map_of_mem he)
    · intro f hf
      rw [h]
      exact Entries.has_iff_mem.2 (List.mem_map_of_mem hf)

theorem equal_list_true (hx : x.list? = some xs) (hy : y.list? = some ys) :
    equal x y = .ok true ↔ List.Forall₂ (fun x y => equal x y = .ok true) xs ys := by
  rw [equal_list hx hy]
  by_cases hl : xs.length = ys.length
  · rw [if_pos hl, equalItems_true hl]
  · rw [if_neg hl]
    exact iff_of_false nofun fun h => hl h.length_eq

theorem equal_obj_true : equal (.obj es) (.obj fs) = .ok true ↔
    (∀ key, Entries.has key es = Entries.has key fs) ∧
      ∀ e ∈ es, ∃ y, fs.lookup e.1 = some y ∧ equal e.2 y = .ok true := by
  rw [equal_obj]
  by_cases hk : sameKeys es fs = true
  · rw [if_pos hk, equalEntries_true]
    exact (and_iff_right (sameKeys_iff.1 hk)).symm
  · rw [if_neg hk]
    exact iff_of_false nofun fun h => hk (sameKeys_iff.2 h.1)

theorem meets_of_equal (h : equal x y = .ok true) : Meets x y := by
  obtain ⟨m, _, he⟩ | hf | ⟨xs, ys, hx, hy⟩ | ⟨es, fs, rfl, rfl⟩ | ⟨hm, _⟩ := equal_cases x y
  · cases he.symm.trans h
  · cases hf.symm.trans h
  · exact .list hx hy ((equal_list_true hx hy).1 h).length_eq
  · exact .obj (equal_obj_true.1 h).1
  · exact hm

end Operand

/-! ## Values -/

theorem Kind.name_ne {k k' : Kind} (h : k ≠ k') : k.name ≠ k'.name := by
  cases k <;> cases k' <;> first | exact absurd rfl h | decide

namespace Value

theorem lookup_entryOperands (key : String) (entries : List (String × Value)) :
    (entryOperands entries).lookup key = (entries.lookup key).map operand := by
  induction entries with
  | nil => rfl
  | cons e rest ih =>
    obtain ⟨k, v⟩ := e
    rw [entryOperands, Entries.lookup_cons, Entries.lookup_cons, ih]
    split <;> rfl

theorem has_entryOperands (key : String) (entries : List (String × Value)) :
    Entries.has key (entryOperands entries) = Entries.has key entries := by
  rw [Entries.has, lookup_entryOperands, Option.isSome_map, Entries.has]

theorem length_operands (vs : List Value) : (operands vs).length = vs.length := by
  induction vs with
  | nil => rfl
  | cons v vs ih => rw [operands, List.length_cons, List.length_cons, ih]

theorem kindName_of_kind {v : Value} {k : Kind} (h : v.kind? = some k) : v.operand.kindName = k.name := by
  cases v <;> cases h <;> rfl

theorem equal_of_kinds {v w : Value} {k k' : Kind} (hv : v.kind? = some k) (hw : w.kind? = some k') (h : k ≠ k') :
    v.operand.equal w.operand = .ok false := by
  refine Operand.equal_of_kindName_ne ?_
  rw [kindName_of_kind hv, kindName_of_kind hw]
  exact Kind.name_ne h

theorem kindName_of_same {v w : Value} (h : v.same w = true) : v.operand.kindName = w.operand.kindName := by
  cases v <;> cases w <;> first | rfl | cases h | skip
  case foreign.foreign i _ j _ =>
    rw [eq_of_beq (show (i == j) = true from h)]
    rfl

/-- Values without parts are compared as they stand. -/
theorem equal_of_alike {v w : Value} (ha : v.operand.kindName ≠ Kind.array.name)
    (ho : v.operand.kindName ≠ Kind.object.name) (h : v.operand.alike w.operand = .ok (v.same w)) :
    v.operand.equal w.operand = .ok (v.same w) := by
  by_cases hk : v.operand.kindName = w.operand.kindName
  · rw [Operand.equal_alike hk ha ho, h]
  · rw [Operand.equal_of_kindName_ne hk, Bool.eq_false_iff.2 fun hs => hk (kindName_of_same hs)]

theorem equal_foreign (i j : Foreign) :
    (Operand.foreign i.number i.typeName).equal (.foreign j.number j.typeName) = .ok (i == j) := by
  obtain ⟨number, typeName⟩ := i
  obtain ⟨number', typeName'⟩ := j
  by_cases ht : typeName = typeName'
  · subst ht
    rw [@Operand.equal_alike (.foreign number typeName) (.foreign number' typeName) rfl typeName.2.1 typeName.2.2]
    refine congrArg Except.ok (Bool.eq_iff_iff.2 ?_)
    rw [beq_iff_eq, beq_iff_eq, Foreign.mk.injEq, and_iff_left rfl]
  · have hk : typeName.1 ≠ typeName'.1 := fun h => ht (Subtype.ext h)
    have hne : (⟨number, typeName⟩ : Foreign) ≠ ⟨number', typeName'⟩ := fun h => ht (Foreign.mk.inj h).2
    rw [beq_eq_false_iff_ne.2 hne]
    exact Operand.equal_of_kindName_ne hk

theorem equal_arrays (s t : Sequence) {vs ws : List Value} (h : vs.length = ws.length →
    Operand.equalItems (operands vs) (operands ws) = .ok (sameItems vs ws)) :
    (arr s vs).operand.equal (arr t ws).operand = .ok ((arr s vs).same (arr t ws)) := by
  have hlist : ∀ (s : Sequence) (vs : List Value), (arr s vs).operand.list? = some (operands vs) := fun _ _ => rfl
  rw [Operand.equal_list (hlist s vs) (hlist t ws), length_operands, length_operands]
  by_cases hl : vs.length = ws.length
  · rw [if_pos hl]
    exact h hl
  · rw [if_neg hl, Bool.eq_false_iff.2 fun hs => hl (same_arr.1 hs).length_eq]

theorem equal_objects {es fs : List (String × Value)}
    (h : Operand.equalEntries (entryOperands es) (entryOperands fs) = .ok (sameEntries es fs)) :
    (obj es).operand.equal (obj fs).operand = .ok ((obj es).same (obj fs)) := by
  have hequal : (obj es).operand.equal (obj fs).operand =
    if Operand.sameKeys (entryOperands es) (entryOperands fs) then
      Operand.equalEntries (entryOperands es) (entryOperands fs) else .ok false := rfl
  have hkeys : Operand.sameKeys (entryOperands es) (entryOperands fs) = true ↔
      ∀ key, Entries.has key es = Entries.has key fs := by
    rw [Operand.sameKeys_iff]
    simp only [has_entryOperands]
  rw [hequal]
  by_cases hk : ∀ key, Entries.has key es = Entries.has key fs
  · have hall : fs.all (fun f => Entries.has f.1 es) = true :=
      List.all_eq_true.2 fun f hf => (hk f.1).trans (Entries.has_iff_mem.2 (List.mem_map_of_mem hf))
    have hsame : (obj es).same (obj fs) = (fs.all (fun f => Entries.has f.1 es) && sameEntries es fs) := by
      rw [same]
    rw [if_pos (hkeys.2 hk), h, hsame, hall, Bool.true_and]
  · rw [if_neg fun h => hk (hkeys.1 h), Bool.eq_false_iff.2 fun hs => hk (has_of_same hs)]

mutual

/-- Values are compared like any other operands, and there is always an answer. -/
theorem equal_operand : ∀ v w : Value, v.operand.equal w.operand = .ok (v.same w)
  | .null, w => by
    refine equal_of_alike (Kind.name_ne (k := .null) nofun) (Kind.name_ne (k := .null) nofun) ?_
    cases w <;> rfl
  | .bool b, w => by
    refine equal_of_alike (Kind.name_ne (k := .boolean) nofun) (Kind.name_ne (k := .boolean) nofun) ?_
    cases w <;> rfl
  | .num n, w => by
    refine equal_of_alike (Kind.name_ne (k := .number) nofun) (Kind.name_ne (k := .number) nofun) ?_
    cases w <;> rfl
  | .str s, w => by
    refine equal_of_alike (Kind.name_ne (k := .string) nofun) (Kind.name_ne (k := .string) nofun) ?_
    cases w <;> rfl
  | .foreign i _, w => by
    cases w with
    | foreign j _ => exact equal_foreign i j
    | _ => exact equal_of_alike i.typeName.2.1 i.typeName.2.2 rfl
  | .arr s vs, w => by
    cases w with
    | arr t ws => exact (equal_arrays s t (equalItems_operands vs ws))
    | foreign j _ => exact Operand.equal_of_kindName_ne j.typeName.2.1.symm
    | _ => exact equal_of_kinds (v := .arr s vs) rfl rfl (by decide)
  | .obj es, w => by
    cases w with
    | obj fs => exact equal_objects (equalEntries_operands fs es)
    | foreign j _ => exact Operand.equal_of_kindName_ne j.typeName.2.2.symm
    | _ => exact equal_of_kinds (v := .obj es) rfl rfl (by decide)

theorem equalItems_operands : ∀ vs ws : List Value, vs.length = ws.length →
    Operand.equalItems (operands vs) (operands ws) = .ok (sameItems vs ws)
  | [], [], _ => rfl
  | v :: vs, w :: ws, hl => by
    rw [operands, operands, Operand.equalItems, equal_operand v w, sameItems]
    cases v.same w with
    | false => rfl
    | true => exact equalItems_operands vs ws (Nat.succ.inj hl)

theorem equalEntries_operands (fs : List (String × Value)) : ∀ es : List (String × Value),
    Operand.equalEntries (entryOperands es) (entryOperands fs) = .ok (sameEntries es fs)
  | [] => rfl
  | (k, v) :: es => by
    rw [entryOperands, Operand.equalEntries, lookup_entryOperands, sameEntries]
    cases fs.lookup k with
    | none => rfl
    | some w =>
      rw [Option.map_some]
      dsimp only
      rw [equal_operand v w]
      cases v.same w with
      | false => rfl
      | true => exact equalEntries_operands fs es

end

end Value

end Conformance
