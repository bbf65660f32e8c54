import Conformance.Proofs.NormalForm
import Conformance.Proofs.Places
/-!
# Plain forms

The members of a conjunction or a disjunction can also be kept as they are, with nothing spliced, dropped,
absorbed or unwrapped. A test of this plain form answers what the test of the normal form answers. A diagnosis of
the plain conjunction may have other nodes inside, but it ends in the same leaves in the same order. A normal
disjunction may find a smaller failure than the plain one, or one that is put together in another way, but it
finds one for the same values.
-/

namespace Conformance

namespace Diagnostic

theorem leavesAll_flatMap {α : Type} (base : List Label) (f : α → List Diagnostic) (as : List α) :
    leavesAll base (as.flatMap f) = as.flatMap fun a => leavesAll base (f a) := by
  induction as with
  | nil => rfl
  | cons a as ih => rw [List.flatMap_cons, leavesAll_append, ih, List.flatMap_cons]

theorem leavesAll_ofChildren (operator : String) (x : Value) (ds : List Diagnostic) :
    leavesAll [] (ofChildren operator x ds).toList = leavesAll [] ds := by
  cases ds with
  | nil => rfl
  | cons d ds =>
    show leavesAll [] [node operator x (d :: ds) none] = _
    rw [leavesAll, leavesAll, List.append_nil, leaves_node (List.cons_ne_nil d ds)]
    rfl

/-- There is a failure on both sides or on neither if the leaves are the same. -/
theorem map_leaves_eq {d e : Option Diagnostic} (h : leavesAll [] d.toList = leavesAll [] e.toList) :
    d.map (·.leaves []) = e.map (·.leaves []) := by
  cases d <;> cases e <;> simp only [Option.toList, leavesAll, List.append_nil] at h
  · rfl
  · exact absurd h.symm (leaves_ne_nil _ _)
  · exact absurd h (leaves_ne_nil _ _)
  · exact congrArg some h

end Diagnostic

namespace Validator

open Diagnostic

variable {limit : Nat} {x : Value} {vs : List Validator}

/-! ## Failures of members -/

theorem failure?_all : failure? limit (.all vs) x =
    Diagnostic.ofChildren "every" x (vs.flatMap fun v => (failure? limit v x).toList) := by
  have hmembers : Id.run (diagnoseAll (fun b y => pure ((diagnoseIn? limit b y).getD (some (recursionLimit y)))) vs x) =
      vs.flatMap fun v => (failure? limit v x).toList := by
    induction vs with
    | nil => rfl
    | cons v vs ih =>
      rw [List.flatMap_cons, ← ih]
      rfl
  rw [← hmembers]
  rfl

theorem failure?_any_eq_none : failure? limit (.any vs) x = none ↔ ∃ v ∈ vs, failure? limit v x = none := by
  have hbranches : Id.run (diagnoseAny (fun b y => pure ((diagnoseIn? limit b y).getD (some (recursionLimit y)))) vs x) =
      none ↔ ∃ v ∈ vs, failure? limit v x = none := by
    induction vs with
    | nil => simp [diagnoseAny]
    | cons v vs ih =>
      rw [diagnoseAny, Id.run_bind, List.exists_mem_cons_iff]
      have hv : Id.run (diagnoseWith (fun b y => pure ((diagnoseIn? limit b y).getD (some (recursionLimit y)))) v x) =
          failure? limit v x := rfl
      rw [hv]
      cases failure? limit v x with
      | none => exact iff_of_true rfl (.inl rfl)
      | some d =>
        rw [or_iff_right (Option.some_ne_none d), ← ih]
        exact Option.map_eq_none_iff
  rw [← hbranches]
  exact Option.map_eq_none_iff

/-! ## Normal and plain -/

/-- What a check finds is what the checks find that it adds to a conjunction. -/
theorem leaves_conjuncts (v : Validator) : leavesAll [] (failure? limit v x).toList =
    v.conjuncts.flatMap fun w => leavesAll [] (failure? limit w x).toList := by
  cases v with
  | anything => rfl
  | all members => rw [failure?_all, leavesAll_ofChildren, leavesAll_flatMap, conjuncts]
  | _ => exact (List.flatMap_singleton _ _).symm

theorem leaves_every : leavesAll [] (failure? limit (every vs) x).toList =
    vs.flatMap fun v => leavesAll [] (failure? limit v x).toList := by
  have hflat : (vs.flatMap conjuncts).flatMap (fun w => leavesAll [] (failure? limit w x).toList) =
      vs.flatMap fun v => leavesAll [] (failure? limit v x).toList := by
    rw [List.flatMap_assoc]
    exact List.flatMap_congr fun v _ => (leaves_conjuncts v).symm
  rw [← hflat]
  unfold every
  split
  · next h => rw [h]; rfl
  · next v h => rw [h, List.flatMap_singleton]
  · rw [failure?_all, leavesAll_ofChildren, leavesAll_flatMap]

theorem passes_every : passes limit (every vs) x = passes limit (.all vs) x :=
  Bool.eq_iff_iff.2 (accepts_every.trans accepts_all.symm)

theorem passes_either : passes limit (either vs) x = passes limit (.any vs) x :=
  Bool.eq_iff_iff.2 (accepts_either.trans accepts_any.symm)

theorem failure?_either_eq_none : failure? limit (either vs) x = none ↔ failure? limit (.any vs) x = none := by
  have hchooses : Chooses fun v => failure? limit v x = none := ⟨rfl, fun _ => failure?_any_eq_none⟩
  rw [hchooses.either, failure?_any_eq_none]

theorem safe_members {marks : List Mark} (h : ∀ v ∈ vs, Safe marks v) :
    Safe marks (.all vs) ∧ Safe marks (.any vs) := by
  have hbodies : ∀ b ∈ bodiesAll vs, b.Safe marks := by
    intro b hb
    obtain ⟨v, hv, hb⟩ := mem_bodiesAll.1 hb
    exact h v hv b hb
  exact ⟨hbodies, hbodies⟩

/-- The normal and the plain form of a conjunction pass the same values, and where they do not they fail with the
same leaves. Those of a disjunction pass the same values and find a failure in the same values. All this holds
under any frame limit, whether some frame runs out or not. -/
theorem forms_agree {marks : List Mark} (h : ∀ v ∈ vs, Built marks v) (limit : Nat) (x : Value) :
    (∃ t, (testWithin Body.open limit (every vs) x).run marks = (.ok t, marks) ∧
      (testWithin Body.open limit (.all vs) x).run marks = (.ok t, marks)) ∧
    (∃ d d', (diagnoseWithin Body.open limit (every vs) x).run marks = (.ok d, marks) ∧
      (diagnoseWithin Body.open limit (.all vs) x).run marks = (.ok d', marks) ∧
      d.map (·.leaves []) = d'.map (·.leaves [])) ∧
    (∃ t, (testWithin Body.open limit (either vs) x).run marks = (.ok t, marks) ∧
      (testWithin Body.open limit (.any vs) x).run marks = (.ok t, marks)) ∧
    ∃ d d', (diagnoseWithin Body.open limit (either vs) x).run marks = (.ok d, marks) ∧
      (diagnoseWithin Body.open limit (.any vs) x).run marks = (.ok d', marks) ∧ (d = none ↔ d' = none) := by
  obtain ⟨hall, hany⟩ := safe_members fun v hv => (h v hv).safe
  have hevery : Safe marks (every vs) := (Built.every h).safe
  have heither : Safe marks (either vs) := (Built.either h).safe
  refine ⟨⟨_, testWithin_run limit hevery x, ?_⟩,
    ⟨_, _, diagnoseWithin_run limit hevery x, diagnoseWithin_run limit hall x, ?_⟩,
    ⟨_, testWithin_run limit heither x, ?_⟩,
    ⟨_, _, diagnoseWithin_run limit heither x, diagnoseWithin_run limit hany x, failure?_either_eq_none⟩⟩
  · rw [passes_every]
    exact testWithin_run limit hall x
  · refine map_leaves_eq ?_
    rw [leaves_every, failure?_all, leavesAll_ofChildren, leavesAll_flatMap]
  · rw [passes_either]
    exact testWithin_run limit hany x

/-- A conjunction in a conjunction, a check that accepts anything and a chain. -/
def nested : List Validator :=
  [every [.guard .string, .hasKey "value"], .anything, .reference chainScope "chain" chain]

set_option maxRecDepth 2000 in
/-- The normal form has three members and the plain one has a node for two of them, but both end in the same leaves. -/
theorem forms_agree_nested : ∃ tree tree',
    (diagnoseWithin Body.open 3 (every nested) (.int 1)).run [⟨0, "chain"⟩] = (.ok (some tree), [⟨0, "chain"⟩]) ∧
    (diagnoseWithin Body.open 3 (.all nested) (.int 1)).run [⟨0, "chain"⟩] = (.ok (some tree'), [⟨0, "chain"⟩]) ∧
    tree.children.map (·.operator) = ["string", "required", "some"] ∧
    tree'.children.map (·.operator) = ["every", "some"] ∧ tree.leaves [] = tree'.leaves [] := by
  have hbuilt : ∀ v ∈ nested, Built [⟨0, "chain"⟩] v := by
    intro v hv
    simp only [nested, List.mem_cons, List.not_mem_nil, or_false] at hv
    rcases hv with rfl | rfl | rfl
    · exact .every (List.forall_mem_cons.2 ⟨.guard .string, List.forall_mem_singleton.2 (.hasKey "value")⟩)
    · exact .anything
    · exact .compiled (List.forall_mem_nil _) compile_chain (List.Subset.refl _)
  have htrees : ∃ tree tree',
      (diagnoseWithin Body.open 3 (every nested) (.int 1)).run [⟨0, "chain"⟩] = (.ok (some tree), [⟨0, "chain"⟩]) ∧
      (diagnoseWithin Body.open 3 (.all nested) (.int 1)).run [⟨0, "chain"⟩] = (.ok (some tree'), [⟨0, "chain"⟩]) ∧
      tree.children.map (·.operator) = ["string", "required", "some"] ∧
      tree'.children.map (·.operator) = ["every", "some"] := ⟨_, _, rfl, rfl, rfl, rfl⟩
  obtain ⟨tree, tree', htree, htree', hnames, hnames'⟩ := htrees
  obtain ⟨-, ⟨d, d', hd, hd', hleaves⟩, -⟩ := forms_agree hbuilt 3 (.int 1)
  rw [htree] at hd
  rw [htree'] at hd'
  cases hd
  cases hd'
  exact ⟨tree, tree', htree, htree', hnames, hnames', Option.some.inj hleaves⟩

end Validator

end Conformance
