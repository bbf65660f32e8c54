import Conformance.Proofs.Answer
/-!
# Validators that can be built

What compiling a document in a scope of its own leaves behind: a validator that links with the
marked definitions, all of which have been checked. Such validators, and what the combinators
make of them, are safe to use for good, however many more definitions are marked.
-/

namespace Conformance

namespace Scope

/-- The node has compiled to `v`, and all that is marked of the scope at `marks` has been checked. -/
structure Compiled (scope : Scope) (marks : List Mark) (node : Value) (v : Validator) : Prop where
  linked : scope.linked (scope.marked marks) node = .ok v
  checked : ∀ name, scope.marked marks name = true → ∃ target w, scope.Checked marks name target w

variable {scope : Scope} {marks : List Mark} {node : Value} {v : Validator}

theorem Defines.unique {name : String} {target target' : Value} (h : scope.Defines name target)
    (h' : scope.Defines name target') : target = target' := by
  obtain ⟨table, ht, hl⟩ := h
  obtain ⟨table', ht', hl'⟩ := h'
  rw [ht] at ht'
  cases ht'
  rw [hl] at hl'
  cases hl'
  rfl

theorem Compiled.settled (h : scope.Compiled marks node v) : scope.Settled (scope.marked marks) := by
  intro name target hm hd
  obtain ⟨target', w, hc⟩ := h.checked name hm
  cases hc.defines.unique hd
  exact ⟨w, hc.linked⟩

theorem Compiled.safe (h : scope.Compiled marks node v) {marks' : List Mark} (hm : marks ⊆ marks') :
    v.Safe marks' :=
  Body.safe_of_linked h.settled (fun _ => marked_mono hm) h.linked

/-- In a scope of its own nothing is marked but what the work itself checks. -/
theorem compile_fresh {marks' : List Mark} (fresh : ∀ m ∈ marks, m.scope ≠ scope.id)
    (h : (scope.compile node).run marks = (.ok v, marks')) : marks ⊆ marks' ∧ scope.Compiled marks' node v := by
  obtain ⟨hsub, hl, hnew⟩ := compile_checked h
  refine ⟨hsub, hl, fun name hm => ?_⟩
  rcases hnew name hm with hm | hc
  · exact absurd rfl (fresh _ (of_decide_eq_true hm))
  · exact hc

end Scope

/-! ## Combinators -/

namespace Validator

/-- Validators made by the combinators, out of deferred ones and of documents that compiled, each
in a scope that was new. What is deferred was built before: a deferred validator that leads back to
itself is not among them. Cycles come from references only. -/
inductive Built (marks : List Mark) : Validator → Prop
  | anything : Built marks .anything
  | guard (kind : Kind) : Built marks (.guard kind)
  | literal (expected : Value) : Built marks (.literal expected)
  | hasKey (key : String) : Built marks (.hasKey key)
  | every {vs : List Validator} (h : ∀ v ∈ vs, Built marks v) : Built marks (every vs)
  | either {vs : List Validator} (h : ∀ v ∈ vs, Built marks v) : Built marks (either vs)
  | shape (coverage : Coverage) {fields : List (String × Validator)} (h : ∀ f ∈ fields, Built marks f.2) :
    Built marks (.shape coverage fields)
  | arrayOf {element : Validator} (h : Built marks element) : Built marks (.arrayOf element)
  | tupleOf {positions : List Validator} (h : ∀ v ∈ positions, Built marks v) : Built marks (.tupleOf positions)
  | deferred (name : String) {body : Validator} (h : Built marks body) : Built marks (.deferred name body)
  | compiled {id : Nat} {document definitions : Value} {before after : List Mark} {v : Validator}
    (fresh : ∀ m ∈ before, m.scope ≠ id)
    (h : (compileDocument id document definitions).run before = (.ok v, after)) (hm : after ⊆ marks) : Built marks v

theorem Built.safe {marks : List Mark} {v : Validator} (h : Built marks v) : v.Safe marks := by
  have hc := closed_bodies (Body.Safe marks)
  induction h with
  | anything => exact nofun
  | guard kind => exact hc.guard kind
  | literal expected => exact hc.literal expected
  | hasKey key => exact hc.hasKey key
  | every _ ih => exact hc.every _ ih
  | either _ ih => exact hc.either _ ih
  | shape coverage _ ih => exact hc.shape coverage _ ih
  | arrayOf _ ih => exact hc.arrayOf _ ih
  | tupleOf _ ih => exact hc.tupleOf _ ih
  | deferred _ _ ih => exact fun b hb => by cases List.mem_singleton.1 hb; exact .ready ih
  | compiled fresh h hm => exact (Scope.compile_fresh fresh h).2.safe hm

end Validator

end Conformance
