import Conformance.Proofs.Built
import Conformance.Proofs.Places
import Conformance.Proofs.Agreement
/-!
# Sub-checks

A check applies others to the value and to parts of it: its members, those for fields and items, and
what a deferred check opens. A diagnosis looks at the value in the same steps, and its failures are
those that it finds there, in order.
-/

namespace Conformance.Validator

/-! ## Steps -/

/-- What a check defers to. -/
def body? : Validator → Option Body
  | deferred _ body => some (.ready body)
  | reference scope _ target => some (.node scope target)
  | _ => none

section

variable (marks : List Mark) (limit : Nat)

/-- The diagnosis of the value finds a failure. -/
def Rejects (v : Validator) (x : Value) : Prop :=
  ∃ d, (diagnoseWithin Body.open limit v x).run marks = (.ok (some d), marks)

/-- One step from the check of a value to another one, and to the part of the value that stands under the
label. The branches of a disjunction count if it rejects the value as a whole. -/
inductive Step : Validator → Value → Option Label → Validator → Value → Prop
  | conjunct {members : List Validator} {v : Validator} {x : Value} (h : v ∈ members) :
    Step (.all members) x none v x
  | field {coverage : Coverage} {fields : List (String × Validator)} {entries : List (String × Value)}
    {key : String} {v : Validator} {y : Value} (hf : (key, v) ∈ fields) (hl : entries.lookup key = some y) :
    Step (.shape coverage fields) (.obj entries) (some (.key key)) v y
  | element {v : Validator} {s : Sequence} {items : List Value} {i : Nat} {y : Value} (hy : items[i]? = some y) :
    Step (.arrayOf v) (.arr s items) (some (.index i)) v y
  | position {positions : List Validator} {s : Sequence} {items : List Value} {i : Nat} {v : Validator} {y : Value}
    (hv : positions[i]? = some v) (hy : items[i]? = some y) :
    Step (.tupleOf positions) (.arr s items) (some (.index i)) v y
  | through {v w : Validator} {b : Body} {x : Value} (hb : v.body? = some b) (ho : b.open.run marks = (.ok w, marks)) :
    Step v x none w x
  | branch {members : List Validator} {v : Validator} {x : Value} (h : v ∈ members)
    (hr : Rejects marks limit (.any members) x) : Step (.any members) x none v x

/-- The check applies another one to the part of the value at the end of the path, after any number of steps. -/
inductive Applies : Validator → Value → List Label → Validator → Value → Prop
  | self (v : Validator) (x : Value) : Applies v x [] v x
  | step {v w u : Validator} {x y z : Value} {label : Option Label} {path : List Label}
    (hs : Step marks limit v x label w y) (h : Applies w y path u z) : Applies v x (label.toList ++ path) u z

end

variable {marks : List Mark} {limit : Nat} {v w u : Validator} {x y z : Value} {label : Option Label}
  {path : List Label}

theorem Step.follow (h : Step marks limit v x label w y) : x.follow label.toList = some y := by
  cases h with
  | field _ hl => exact Value.follow_key hl
  | element hy => exact Value.follow_index hy
  | position _ hy => exact Value.follow_index hy
  | _ => rfl

/-- What a check is applied to is what stands at the end of the path. -/
theorem Applies.follow (h : Applies marks limit v x path u y) : x.follow path = some y := by
  induction h with
  | self => rfl
  | step hs _ ih => rw [Value.follow_append, hs.follow]; exact ih

/-! ## Steps from what is safe -/

theorem rejects_iff (hv : v.Safe marks) : Rejects marks limit v x ↔ ∃ d, failure? limit v x = some d := by
  constructor
  · rintro ⟨d, hd⟩
    rw [diagnoseWithin_run limit hv x] at hd
    exact ⟨d, Except.ok.inj (Prod.mk.inj hd).1⟩
  · rintro ⟨d, hd⟩
    exact ⟨d, by rw [diagnoseWithin_run limit hv x, hd]⟩

/-- What a check defers to is all that it holds. -/
theorem bodies_of_body? {b : Body} (hb : v.body? = some b) : v.bodies = [b] := by
  cases v <;> cases hb <;> rfl

theorem Safe.body {b : Body} (hv : v.Safe marks) (hb : v.body? = some b) : b.Safe marks := by
  refine hv b ?_
  rw [bodies_of_body? hb]
  exact List.mem_singleton.2 rfl

/-- Opening a safe body gives what it links to. -/
theorem opens_to {b : Body} (h : b.Safe marks) (ho : b.open.run marks = (.ok w, marks)) :
    b.linked? = some w ∧ w.Safe marks := by
  obtain ⟨w', hl, ho', hs⟩ := h.opens
  rw [ho] at ho'
  cases ho'
  exact ⟨hl, hs⟩

/-- A step from a safe check is to a safe one. -/
theorem Step.safe (h : Step marks limit v x label w y) (hv : v.Safe marks) : w.Safe marks := by
  cases h with
  | conjunct hm => exact fun b hb => hv b (mem_bodiesAll.2 ⟨w, hm, hb⟩)
  | branch hm _ => exact fun b hb => hv b (mem_bodiesAll.2 ⟨w, hm, hb⟩)
  | field hf _ => exact fun b hb => hv b (mem_bodiesFields.2 ⟨_, hf, hb⟩)
  | element _ => exact hv
  | position hp _ => exact fun b hb => hv b (mem_bodiesAll.2 ⟨w, List.mem_of_getElem? hp, hb⟩)
  | through hb ho => exact (opens_to (hv.body hb) ho).2

theorem Applies.safe (h : Applies marks limit v x path u y) (hv : v.Safe marks) : u.Safe marks := by
  induction h with
  | self => exact hv
  | step hs _ ih => exact ih (hs.safe hv)

/-- A step that opens nothing is to a part of the check. -/
theorem Step.smaller (h : Step marks limit v x label w y) (hb : v.body? = none) : sizeOf w < sizeOf v := by
  cases h with
  | conjunct hm | branch hm _ =>
    have := List.sizeOf_lt_of_mem hm
    simp only [all.sizeOf_spec, any.sizeOf_spec]
    omega
  | field hf _ =>
    have := List.sizeOf_lt_of_mem hf
    simp only [shape.sizeOf_spec, Prod.mk.sizeOf_spec] at this ⊢
    omega
  | element _ =>
    simp only [arrayOf.sizeOf_spec]
    omega
  | position hp _ =>
    have := List.sizeOf_lt_of_mem (List.mem_of_getElem? hp)
    simp only [tupleOf.sizeOf_spec]
    omega
  | through hb' _ =>
    rw [hb] at hb'
    cases hb'

end Conformance.Validator
