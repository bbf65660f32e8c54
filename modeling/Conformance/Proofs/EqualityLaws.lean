import Conformance.Proofs.Operands
import Conformance.Proofs.Places
/-!
# Laws of equality

Operands are compared path by path: they are equal exactly if, at the end of every path, both have nothing or both
have something that agrees in what is compared before its parts. So equality has the laws of that comparison. It is
symmetric and transitive, and what holds nothing that differs from itself is equal to itself. Arrays of one length
and objects with one set of keys stand in the same places, and nowhere does a boolean stand for a number. There is
no answer only where two operands clash at the end of some path.
-/

namespace Conformance

/-! ## Numbers -/

namespace Number

/-- A double or a decimal that is not a number. -/
inductive Undefined : Number → Prop
  | float : Undefined (.float .nan)
  | decimal (negative : Bool) (payload : List Char) : Undefined (.decimal (.nan negative payload))

variable {a b c : Number}

theorem Equals.symm (h : a.Equals b) : b.Equals a := by
  rcases h with ⟨q, ha, hb⟩ | ⟨s, ha, hb⟩
  · exact .inl ⟨q, hb, ha⟩
  · exact .inr ⟨s, hb, ha⟩

theorem Equals.trans (h : a.Equals b) (h' : b.Equals c) : a.Equals c := by
  rw [← same_iff_equals, same_iff] at h h' ⊢
  obtain ⟨x, ha, hb⟩ := h
  obtain ⟨y, hb', hc⟩ := h'
  rw [hb] at hb'
  cases hb'
  exact ⟨x, ha, hc⟩

theorem equals_self (h : ¬ a.Undefined) : a.Equals a := by
  rw [← same_iff_equals, same_iff]
  suffices hv : ∃ x, a.value? = some x by
    obtain ⟨x, hx⟩ := hv
    exact ⟨x, hx, hx⟩
  unfold value?
  split
  case h_4 => exact absurd .float h
  case h_7 => exact absurd (.decimal _ _) h
  all_goals exact ⟨_, rfl⟩

end Number

namespace Operand

/-- No object inside has a key twice. -/
inductive Keyed : Operand → Prop
  | null : Keyed .null
  | bool (b : Bool) : Keyed (.bool b)
  | num (n : Number) : Keyed (.num n)
  | signalling : Keyed .signalling
  | str (s : String) : Keyed (.str s)
  | arr (s : Sequence) {items : List Operand} (h : ∀ x ∈ items, Keyed x) : Keyed (.arr s items)
  | obj {entries : List (String × Operand)} (hk : (entries.map Prod.fst).Nodup) (h : ∀ e ∈ entries, Keyed e.2) :
    Keyed (.obj entries)
  | foreign (number : Nat) (typeName : String) : Keyed (.foreign number typeName)
  | row (number : Nat) (typeName : String) {items : List Operand} (h : ∀ x ∈ items, Keyed x) :
    Keyed (.row number typeName items)

/-- Nothing that differs from itself stands in the operand: no number that is none, and no object of another
class. -/
inductive Definite : Operand → Prop
  | null : Definite .null
  | bool (b : Bool) : Definite (.bool b)
  | num {n : Number} (h : ¬ n.Undefined) : Definite (.num n)
  | str (s : String) : Definite (.str s)
  | arr (s : Sequence) {items : List Operand} (h : ∀ x ∈ items, Definite x) : Definite (.arr s items)
  | obj {entries : List (String × Operand)} (h : ∀ e ∈ entries, Definite e.2) : Definite (.obj entries)

/-! ## Parts -/

def size? (x : Operand) : Option Nat := x.list?.map List.length

def keys? (x : Operand) : Option (Finset String) := x.entries?.map fun entries => (entries.map Prod.fst).toFinset

/-- The part of an operand that is one step away. -/
def child? (x : Operand) : Label → Option Operand
  | .key name => x.entries?.bind (·.lookup name)
  | .index position => if position < 0 then none else x.list?.bind (·[position.toNat]?)

/-- The part of an operand at the end of a path. -/
def follow (x : Operand) (path : List Label) : Option Operand := path.foldlM child? x

variable {x y z : Operand} {xs ys : List Operand} {es fs : List (String × Operand)}

theorem follow_cons (x : Operand) (label : Label) (path : List Label) :
    x.follow (label :: path) = (x.child? label).bind fun y => y.follow path := by
  rw [follow, List.foldlM_cons]
  rfl

theorem child?_index (h : x.list? = some xs) (i : Nat) : x.child? (.index i) = xs[i]? := by
  rw [child?, if_neg (by omega), h, Option.bind_some, Int.toNat_natCast]

/-! ## Comparing before the parts -/

theorem Meets.symm (h : Meets x y) : Meets y x := by
  cases h with
  | null => exact .null
  | bool b => exact .bool b
  | num h => exact .num h.symm
  | str s => exact .str s
  | list hx hy h => exact .list hy hx h.symm
  | obj h => exact .obj fun key => (h key).symm
  | foreign i ha ho => exact .foreign i ha ho
  | row i ha ho xs ys => exact .row i ha ho ys xs

/-- What an array meets is called an array, too. -/
theorem Meets.list_left (hx : x.list? = some xs) (h : Meets x y) : ∃ ys, y.list? = some ys ∧ xs.length = ys.length := by
  cases h with
  | list hx' hy h =>
    cases hx.symm.trans hx'
    exact ⟨_, hy, h⟩
  | foreign i ha ho => cases hx.symm.trans (if_neg ha)
  | row i ha _ xs ys => cases hx.symm.trans (list?_row ha i xs)
  | _ => cases hx

theorem Meets.trans (h : Meets x y) (h' : Meets y z) : Meets x z := by
  cases h with
  | null => exact h'
  | bool b => exact h'
  | str s => exact h'
  | foreign i ha ho => exact h'
  | list hx hy h =>
    obtain ⟨zs, hz, h'⟩ := h'.list_left hy
    exact .list hx hz (h.trans h')
  | num h =>
    cases h' with
    | num h' => exact .num (h.trans h')
    | list hy _ _ => cases hy
  | obj h =>
    cases h' with
    | obj h' => exact .obj fun key => (h key).trans (h' key)
    | list hy _ _ => cases hy
  | row i ha ho xs ys =>
    cases h' with
    | row _ _ _ _ zs => exact .row i ha ho xs zs
    | list hy _ _ => cases hy.symm.trans (list?_row ha i ys)

theorem Definite.meets_self (h : x.Definite) : Meets x x := by
  cases h with
  | null => exact .null
  | bool b => exact .bool b
  | num h => exact .num (Number.equals_self h)
  | str s => exact .str s
  | arr s _ => exact .list rfl rfl rfl
  | obj _ => exact .obj fun _ => rfl

theorem Meets.kindName_eq (h : Meets x y) : x.kindName = y.kindName := by
  cases h with
  | list hx hy _ => exact (kindName_of_list? hx).trans (kindName_of_list? hy).symm
  | _ => rfl

theorem Meets.size?_eq (h : Meets x y) : x.size? = y.size? := by
  cases h with
  | list hx hy h =>
    rw [size?, size?, hx, hy]
    exact congrArg some h
  | row i ha _ xs ys =>
    rw [size?, size?, list?_row ha, list?_row ha]
  | _ => rfl

theorem Meets.keys?_eq (h : Meets x y) : x.keys? = y.keys? := by
  cases h with
  | list hx hy _ =>
    obtain ⟨_, rfl⟩ | ⟨_, rfl⟩ := list?_eq_some.1 hx <;>
      obtain ⟨_, rfl⟩ | ⟨_, rfl⟩ := list?_eq_some.1 hy <;> rfl
  | obj h =>
    refine congrArg some (Finset.ext fun key => ?_)
    rw [List.mem_toFinset, List.mem_toFinset, ← Entries.has_iff_mem, ← Entries.has_iff_mem, h key]
  | _ => rfl

/-! ## Comparing what stands in one place -/

section Rel

variable {α β γ : Type} {R : α → β → Prop} {o : Option α} {p : Option β}

theorem rel_imp {Q : α → β → Prop} (h : Option.Rel R o p) (hq : ∀ a b, R a b → Q a b) : Option.Rel Q o p := by
  cases h with
  | none => exact .none
  | some h => exact .some (hq _ _ h)

theorem rel_symm {Q : β → α → Prop} (h : Option.Rel R o p) (hq : ∀ a b, R a b → Q b a) : Option.Rel Q p o := by
  cases h with
  | none => exact .none
  | some h => exact .some (hq _ _ h)

theorem rel_trans {P : β → γ → Prop} {Q : α → γ → Prop} {q : Option γ} (h : Option.Rel R o p) (h' : Option.Rel P p q)
    (hq : ∀ a b c, R a b → P b c → Q a c) : Option.Rel Q o q := by
  cases h with
  | none => cases h' with | none => exact .none
  | some h => cases h' with | some h' => exact .some (hq _ _ _ h h')

end Rel

theorem forall₂_iff_getElem? {α β : Type} {R : α → β → Prop} {as : List α} {bs : List β} :
    List.Forall₂ R as bs ↔ ∀ i : Nat, Option.Rel R as[i]? bs[i]? := by
  constructor
  · intro h i
    induction h generalizing i with
    | nil => exact .none
    | cons hab _ ih =>
      cases i with
      | zero => exact .some hab
      | succ i => exact ih i
  · intro h
    induction as generalizing bs with
    | nil =>
      cases bs with
      | nil => exact .nil
      | cons b bs => cases h 0
    | cons a as ih =>
      cases bs with
      | nil => cases h 0
      | cons b bs =>
        cases h 0 with
        | some hab => exact .cons hab (ih fun i => h (i + 1))

theorem child?_equal (h : equal x y = .ok true) (label : Label) :
    Option.Rel (fun x y => equal x y = .ok true) (x.child? label) (y.child? label) := by
  cases label with
  | key name =>
    rw [child?, child?]
    cases meets_of_equal h with
    | @obj es fs _ =>
      obtain ⟨hkeys, hes⟩ := equal_obj_true.1 h
      show Option.Rel _ (es.lookup name) (fs.lookup name)
      cases hx : es.lookup name with
      | some u =>
        obtain ⟨w, hw, hs⟩ := hes _ (Entries.mem_of_lookup hx)
        rw [hw]
        exact .some hs
      | none =>
        have hnone : fs.lookup name = none := by
          rw [← Option.not_isSome_iff_eq_none, ← Entries.has, ← hkeys, Entries.has, hx]
          exact Bool.false_ne_true
        rw [hnone]
        exact .none
    | list hx hy _ =>
      obtain ⟨_, rfl⟩ | ⟨_, rfl⟩ := list?_eq_some.1 hx <;>
        obtain ⟨_, rfl⟩ | ⟨_, rfl⟩ := list?_eq_some.1 hy <;> exact .none
    | _ => exact .none
  | index position =>
    rw [child?, child?]
    split
    · exact .none
    · cases meets_of_equal h with
      | list hx hy _ =>
        rw [hx, hy]
        exact forall₂_iff_getElem?.1 ((equal_list_true hx hy).1 h) _
      | row i ha _ xs ys =>
        rw [list?_row ha, list?_row ha]
        exact .none
      | foreign i _ _ =>
        rw [list?_foreign]
        exact .none
      | _ => exact .none

/-- What is equal is equal at every path. -/
theorem follow_equal (h : equal x y = .ok true) (path : List Label) :
    Option.Rel (fun x y => equal x y = .ok true) (x.follow path) (y.follow path) := by
  induction path generalizing x y with
  | nil => exact .some h
  | cons label path ih =>
    have hchild := child?_equal h label
    rw [follow_cons, follow_cons]
    generalize x.child? label = u at hchild ⊢
    generalize y.child? label = w at hchild ⊢
    cases hchild with
    | none => exact .none
    | some hs => exact ih hs

theorem rel_follow_child {R : Operand → Operand → Prop} {label : Label} {u w : Operand}
    (h : ∀ path, Option.Rel R (x.follow path) (y.follow path)) (hu : x.child? label = some u)
    (hw : y.child? label = some w) (path : List Label) : Option.Rel R (u.follow path) (w.follow path) := by
  have hpath := h (label :: path)
  rw [follow_cons, follow_cons, hu, hw] at hpath
  exact hpath

theorem meets_of_follow (h : ∀ path, Option.Rel Meets (x.follow path) (y.follow path)) : Meets x y := by
  cases h [] with
  | some hm => exact hm

/-- An array is equal to what meets it at every path, if its items are. -/
theorem equal_of_list (hx : x.list? = some xs)
    (ih : ∀ u ∈ xs, ∀ {w : Operand}, (∀ path, Option.Rel Meets (u.follow path) (w.follow path)) → equal u w = .ok true)
    (h : ∀ path, Option.Rel Meets (x.follow path) (y.follow path)) : equal x y = .ok true := by
  obtain ⟨ys, hy, hlength⟩ := (meets_of_follow h).list_left hx
  refine (equal_list_true hx hy).2 (List.forall₂_iff_get.2 ⟨hlength, fun i hi hi' => ?_⟩)
  have hu : x.child? (.index i) = some xs[i] := (child?_index hx i).trans (List.getElem?_eq_getElem hi)
  have hw : y.child? (.index i) = some ys[i] := (child?_index hy i).trans (List.getElem?_eq_getElem hi')
  exact ih _ (List.get_mem xs ⟨i, hi⟩) (rel_follow_child h hu hw)

/-- What has no parts is equal to what it meets. -/
theorem equal_of_meets (hl : x.list? = none) (he : x.entries? = none) (h : Meets x y) : equal x y = .ok true := by
  cases h with
  | null => rfl
  | bool b => cases b <;> rfl
  | num h => exact congrArg Except.ok (Number.same_iff_equals.2 h)
  | str s => exact congrArg Except.ok (beq_self_eq_true s)
  | list hx _ _ => cases hl.symm.trans hx
  | obj _ => cases he
  | @foreign i typeName ha ho =>
    rw [@equal_alike (.foreign i typeName) (.foreign i typeName) rfl ha ho]
    exact congrArg Except.ok (beq_self_eq_true i)
  | @row i typeName ha ho xs ys =>
    rw [@equal_alike (.row i typeName xs) (.row i typeName ys) rfl ha ho]
    exact congrArg Except.ok (beq_self_eq_true i)

/-- What meets at every path is equal. -/
theorem equal_of_follow (hx : x.Keyed) (h : ∀ path, Option.Rel Meets (x.follow path) (y.follow path)) :
    equal x y = .ok true := by
  induction hx generalizing y with
  | null => exact equal_of_meets rfl rfl (meets_of_follow h)
  | bool b => exact equal_of_meets rfl rfl (meets_of_follow h)
  | num n => exact equal_of_meets rfl rfl (meets_of_follow h)
  | signalling => exact equal_of_meets rfl rfl (meets_of_follow h)
  | str s => exact equal_of_meets rfl rfl (meets_of_follow h)
  | foreign i typeName => exact equal_of_meets (list?_foreign i typeName) rfl (meets_of_follow h)
  | @arr s xs _ ih => exact equal_of_list (list?_eq_some.2 (.inl ⟨s, rfl⟩)) ih h
  | @row i typeName xs _ ih =>
    by_cases ha : typeName = Kind.array.name
    · subst ha
      exact equal_of_list (list?_eq_some.2 (.inr ⟨i, rfl⟩)) ih h
    · exact equal_of_meets (list?_row ha i xs) rfl (meets_of_follow h)
  | @obj es hk _ ih =>
    cases meets_of_follow h with
    | list hx _ _ => cases hx
    | @obj _ fs hkeys =>
      refine equal_obj_true.2 ⟨hkeys, fun e he => ?_⟩
      obtain ⟨w, hw⟩ := Entries.has_iff.1 ((hkeys e.1).symm.trans
        (Entries.has_iff_mem.2 (List.mem_map_of_mem he)))
      have hu : (Operand.obj es).child? (.key e.1) = some e.2 := Entries.lookup_of_mem hk he
      have hw' : (Operand.obj fs).child? (.key e.1) = some w := hw
      exact ⟨w, hw, ih e he (rel_follow_child h hu hw')⟩

/-- Operands are equal exactly if at every path they have nothing, or what meets. -/
theorem equal_iff_follow (hx : x.Keyed) :
    equal x y = .ok true ↔ ∀ path, Option.Rel Meets (x.follow path) (y.follow path) :=
  ⟨fun h path => rel_imp (follow_equal h path) fun _ _ => meets_of_equal, equal_of_follow hx⟩

/-! ## Laws -/

theorem equal_symm (hy : y.Keyed) (h : equal x y = .ok true) : equal y x = .ok true :=
  equal_of_follow hy fun path => rel_symm (follow_equal h path) fun _ _ hs => (meets_of_equal hs).symm

theorem equal_trans (hx : x.Keyed) (h : equal x y = .ok true) (h' : equal y z = .ok true) : equal x z = .ok true :=
  equal_of_follow hx fun path => rel_trans (follow_equal h path) (follow_equal h' path) fun _ _ _ hs hs' =>
    (meets_of_equal hs).trans (meets_of_equal hs')

theorem child?_definite (h : x.Definite) {label : Label} (hy : x.child? label = some y) : y.Definite := by
  cases label with
  | key name =>
    cases h with
    | obj h => exact h _ (Entries.mem_of_lookup hy)
    | _ => cases hy
  | index position =>
    rw [child?] at hy
    split at hy
    · cases hy
    · cases h with
      | arr s h => exact h y (List.mem_of_getElem? hy)
      | _ => cases hy

theorem equal_self (hx : x.Keyed) (hd : x.Definite) : equal x x = .ok true := by
  refine equal_of_follow hx fun path => ?_
  clear hx
  induction path generalizing x with
  | nil => exact .some hd.meets_self
  | cons label path ih =>
    rw [follow_cons]
    cases hy : x.child? label with
    | none => exact .none
    | some y => exact ih (child?_definite hd hy)

/-! ## No answer -/

/-- The operands clash at the end of a path that both have. -/
def Clashes (x y : Operand) (m : Mishap) : Prop :=
  ∃ path u w, x.follow path = some u ∧ y.follow path = some w ∧ Clash u w m

theorem Clashes.of_child {m : Mishap} {label : Label} {u w : Operand} (hu : x.child? label = some u)
    (hw : y.child? label = some w) (h : u.Clashes w m) : x.Clashes y m := by
  obtain ⟨path, u', w', hu', hw', h⟩ := h
  refine ⟨label :: path, u', w', ?_, ?_, h⟩
  · rw [follow_cons, hu]
    exact hu'
  · rw [follow_cons, hw]
    exact hw'

/-- Where there is no answer, the operands clash themselves, or parts of them that are compared have no answer. -/
theorem clashes_of_parts {m : Mishap} (h : equal x y = .error m)
    (hlist : ∀ xs, x.list? = some xs → ∀ u ∈ xs, ∀ {w : Operand}, equal u w = .error m → u.Clashes w m)
    (hobj : ∀ es, x = .obj es → (es.map Prod.fst).Nodup ∧
      ∀ e ∈ es, ∀ {w : Operand}, equal e.2 w = .error m → e.2.Clashes w m) : x.Clashes y m := by
  obtain ⟨m', hc, he⟩ | hf | ⟨xs, ys, hx, hy⟩ | ⟨es, fs, rfl, rfl⟩ | ⟨_, ht⟩ := equal_cases x y
  · cases he.symm.trans h
    exact ⟨[], x, y, rfl, rfl, hc⟩
  · cases hf.symm.trans h
  · rw [equal_list hx hy] at h
    split at h
    · obtain ⟨i, u, w, hu, hw, h⟩ := equalItems_error h
      exact .of_child ((child?_index hx i).trans hu) ((child?_index hy i).trans hw)
        (hlist xs hx u (List.mem_of_getElem? hu) h)
    · cases h
  · rw [equal_obj] at h
    split at h
    · obtain ⟨hk, hentries⟩ := hobj es rfl
      obtain ⟨e, he, w, hw, h⟩ := equalEntries_error h
      have hu : (Operand.obj es).child? (.key e.1) = some e.2 := Entries.lookup_of_mem hk he
      have hw' : (Operand.obj fs).child? (.key e.1) = some w := hw
      exact .of_child hu hw' (hentries e he h)
    · cases h
  · cases ht.symm.trans h

theorem clashes_of_error {m : Mishap} (hx : x.Keyed) (h : equal x y = .error m) : x.Clashes y m := by
  induction hx generalizing y with
  | null => exact clashes_of_parts h nofun nofun
  | bool b => exact clashes_of_parts h nofun nofun
  | num n => exact clashes_of_parts h nofun nofun
  | signalling => exact clashes_of_parts h nofun nofun
  | str s => exact clashes_of_parts h nofun nofun
  | foreign i typeName =>
    refine clashes_of_parts h (fun xs hx => ?_) nofun
    rw [list?_foreign] at hx
    cases hx
  | arr s _ ih =>
    refine clashes_of_parts h (fun xs hx => ?_) nofun
    obtain ⟨_, he⟩ | ⟨_, he⟩ := list?_eq_some.1 hx <;> cases he
    exact ih
  | row i typeName _ ih =>
    refine clashes_of_parts h (fun xs hx => ?_) nofun
    obtain ⟨_, he⟩ | ⟨_, he⟩ := list?_eq_some.1 hx <;> cases he
    exact ih
  | obj hk _ ih =>
    refine clashes_of_parts h nofun fun es he => ?_
    cases he
    exact ⟨hk, ih⟩

/-- Equality of operands is symmetric and transitive, and what has nothing in it that differs from itself is equal to
itself. Operands are equal exactly if they meet at every path; then they have one kind, as many items and the
same keys in every place, so nowhere does a boolean stand for a number. To have no answer two operands must clash
somewhere, which values never do: for them equality is the comparison that validators make. -/
theorem equality_laws :
    (∀ x y : Operand, x.Keyed → y.Keyed → (x.equal y = .ok true ↔ y.equal x = .ok true) ∧
      ∀ b c, x.equal y = .ok b → y.equal x = .ok c → b = c) ∧
    (∀ x y z : Operand, x.Keyed → y.Keyed → z.Keyed → x.equal y = .ok true → y.equal z = .ok true →
      x.equal z = .ok true) ∧
    (∀ x : Operand, x.Keyed → x.Definite → x.equal x = .ok true) ∧
    (∀ x y : Operand, x.Keyed → y.Keyed →
      (x.equal y = .ok true ↔ ∀ path, Option.Rel Meets (x.follow path) (y.follow path))) ∧
    (∀ x y : Operand, x.equal y = .ok true →
      (∀ path, Option.Rel (fun u w => u.kindName = w.kindName ∧ u.size? = w.size? ∧ u.keys? = w.keys?)
        (x.follow path) (y.follow path)) ∧
      ∀ path b u, u.Numeric → ¬ (x.follow path = some (.bool b) ∧ y.follow path = some u) ∧
        ¬ (x.follow path = some u ∧ y.follow path = some (.bool b))) ∧
    (∀ x y : Operand, x.Keyed → y.Keyed → ∀ m, x.equal y = .error m → x.Clashes y m) ∧
    ∀ v w : Value, v.operand.equal w.operand = .ok (v.same w) := by
  have hplaces : ∀ {x y : Operand}, x.equal y = .ok true → ∀ path,
      Option.Rel (fun u w => u.kindName = w.kindName ∧ u.size? = w.size? ∧ u.keys? = w.keys?)
        (x.follow path) (y.follow path) := fun h path => rel_imp (follow_equal h path) fun u w hs =>
    have hm := meets_of_equal hs
    ⟨hm.kindName_eq, hm.size?_eq, hm.keys?_eq⟩
  have hnumeric : ∀ {u : Operand} (b : Bool), u.Numeric → (Operand.bool b).kindName ≠ u.kindName := by
    intro u b hu
    have hne : Kind.boolean.name ≠ Kind.number.name := by decide
    cases hu <;> exact hne
  refine ⟨fun x y hx hy => ⟨⟨equal_symm hy, equal_symm hx⟩, fun b c hb hc => ?_⟩, fun x y z hx _ _ => equal_trans hx,
    fun x => equal_self, fun x y hx _ => equal_iff_follow hx,
    fun x y h => ⟨hplaces h, fun path b u hu => ⟨?_, ?_⟩⟩, fun x y hx _ m => clashes_of_error hx, Value.equal_operand⟩
  · have hiff : b = true ↔ c = true := by
      constructor
      · rintro rfl
        exact Except.ok.inj (hc.symm.trans (equal_symm hy hb))
      · rintro rfl
        exact Except.ok.inj (hb.symm.trans (equal_symm hx hc))
    exact Bool.eq_iff_iff.2 hiff
  · rintro ⟨hx, hy⟩
    have hpath := hplaces h path
    rw [hx, hy] at hpath
    cases hpath with | some hs => exact hnumeric b hu hs.1
  · rintro ⟨hx, hy⟩
    have hpath := hplaces h path
    rw [hx, hy] at hpath
    cases hpath with | some hs => exact hnumeric b hu hs.1.symm

/-- A price list: the number is written in one way or another, -/
def priced (s : Sequence) (price : Number) : Operand :=
  .arr s [.num price, .obj [("net", .bool true), ("notes", .arr s [])]]

/-- and the keys come in one order or the other, in an object of a class that is called an array. -/
def pricedBackwards (price : Number) : Operand :=
  .row 0 "array" [.num price, .obj [("notes", .arr .list []), ("net", .bool true)]]

theorem keyed_priced (s : Sequence) (price : Number) : (priced s price).Keyed := by
  have hnotes : (Operand.obj [("net", .bool true), ("notes", .arr s [])]).Keyed :=
    .obj (by simp) (List.forall_mem_cons.2 ⟨.bool true, List.forall_mem_singleton.2 (.arr s nofun)⟩)
  exact .arr s (List.forall_mem_cons.2 ⟨.num price, List.forall_mem_singleton.2 hnotes⟩)

theorem keyed_pricedBackwards (price : Number) : (pricedBackwards price).Keyed := by
  have hnotes : (Operand.obj [("notes", .arr .list []), ("net", .bool true)]).Keyed :=
    .obj (by simp) (List.forall_mem_cons.2 ⟨.arr .list nofun, List.forall_mem_singleton.2 (.bool true)⟩)
  exact .row 0 "array" (List.forall_mem_cons.2 ⟨.num price, List.forall_mem_singleton.2 hnotes⟩)

/-- Three halves as a double, -/
def doublePriced : Operand := priced .list (.float (.finite false 3 (-1)))

/-- as a decimal, -/
def decimalPriced : Operand := pricedBackwards (.decimal (.finite false 15 (-1)))

/-- and as the same decimal with another digit. -/
def preciselyPriced : Operand := priced .tuple (.decimal (.finite false 150 (-2)))

theorem equality_laws_priced :
    doublePriced.equal decimalPriced = .ok true ∧ decimalPriced.equal preciselyPriced = .ok true ∧
    doublePriced.equal preciselyPriced = .ok true ∧ decimalPriced.equal doublePriced = .ok true ∧
    doublePriced.equal doublePriced = .ok true ∧
    (∀ path, Option.Rel (fun u w => u.kindName = w.kindName ∧ u.size? = w.size? ∧ u.keys? = w.keys?)
      (doublePriced.follow path) (decimalPriced.follow path)) ∧
    (priced .list (.float .nan)).equal (priced .list (.float .nan)) = .ok false ∧
    (foreign 0 "object").equal (.obj []) = .error .noKeys ∧ (foreign 0 "object").Clashes (.obj []) .noKeys := by
  obtain ⟨hsymm, htrans, hself, _, hplaces, hclashes, _⟩ := equality_laws
  have hx : doublePriced.Keyed := keyed_priced _ _
  have hy : decimalPriced.Keyed := keyed_pricedBackwards _
  have hz : preciselyPriced.Keyed := keyed_priced _ _
  have hxy : doublePriced.equal decimalPriced = .ok true := by decide
  have hyz : decimalPriced.equal preciselyPriced = .ok true := by decide
  have hnotes : (Operand.obj [("net", .bool true), ("notes", .arr .list [])]).Definite :=
    .obj (List.forall_mem_cons.2 ⟨.bool true, List.forall_mem_singleton.2 (.arr .list nofun)⟩)
  have hdefinite : doublePriced.Definite :=
    .arr .list (List.forall_mem_cons.2 ⟨.num nofun, List.forall_mem_singleton.2 hnotes⟩)
  have hobject : (foreign 0 "object").equal (.obj []) = .error .noKeys := rfl
  refine ⟨hxy, hyz, htrans _ _ _ hx hy hz hxy hyz, ((hsymm _ _ hx hy).1).1 hxy, hself _ hx hdefinite,
    (hplaces _ _ hxy).1, by decide, hobject, ?_⟩
  exact hclashes _ _ (.foreign 0 "object") (@Keyed.obj [] List.nodup_nil nofun) _ hobject

end Operand

end Conformance
