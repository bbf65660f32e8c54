import Conformance.Proofs.Agreement
import Conformance.Proofs.Built
/-!
# Verdicts

A check and a cast are read off the diagnosis, and the test fits it. So a value that is cast
passes the test, and a failure that mentions no frame limit is one of the test as well. A test
may still answer yes where the diagnosis ran out of frames.
-/

namespace Conformance.Validator

namespace Verdict

theorem ok_iff {r : Verdict} : r.ok = true ↔ r.failure = none := by
  simp [ok, Option.isNone_iff_eq_none]

theorem toExcept_ok {r : Verdict} {x : Value} (h : r.toExcept = .ok x) :
    r.failure = none ∧ x = r.value := by
  unfold toExcept at h
  split at h
  · next hd => cases h; exact ⟨hd, rfl⟩
  · cases h

end Verdict

/-! ## Reading a diagnosis -/

section Reading

variable {marks marks' : List Mark} {v : Validator} {limit : Nat} {x : Value} {d : Option Diagnostic}

theorem checkWithin_run (h : (diagnoseWithin Body.open limit v x).run marks = (.ok d, marks')) :
    (checkWithin Body.open limit v x).run marks = (.ok ⟨x, d⟩, marks') := by
  unfold checkWithin
  rw [run_bind_of_ok h]
  rfl

theorem castWithin_run (h : (diagnoseWithin Body.open limit v x).run marks = (.ok d, marks')) :
    (castWithin Body.open limit v x).run marks = (.ok (Verdict.mk x d).toExcept, marks') := by
  unfold castWithin
  rw [run_bind_of_ok (checkWithin_run h)]
  rfl

end Reading

/-! ## A detour -/

/-- A definition that is only itself never ends, however many frames there are. -/
theorem diagnoseIn?_cycle {scope : Scope} {name : String} {target : Value}
    (h : scope.linked (fun _ => true) target = .ok (.reference scope name target)) (limit : Nat) (x : Value) :
    diagnoseIn? limit (.node scope target) x = none := by
  induction limit with
  | zero => rfl
  | succ limit ih =>
    rw [diagnoseIn?, Body.linked?_node.2 h]
    exact ih

/-- Only itself. -/
def cycle : Value := .obj [("$ref", .str "#/definitions/L")]

/-- A text that is the cycle as well, or else a number. -/
def detour : Value :=
  .obj [("anyOf", .list [.obj [("type", .str "string"), ("allOf", .list [cycle])], .obj [("type", .str "number")]])]

def detourDocument : Value :=
  .obj [("$ref", .str "#/definitions/A"), ("definitions", .obj [("A", detour), ("L", cycle)])]

def detourScope : Scope := ⟨0, some [("A", detour), ("L", cycle)]⟩

theorem linked_cycle : detourScope.linked (fun _ => true) cycle = .ok (.reference detourScope "L" cycle) := rfl

theorem linked_detour : detourScope.linked (fun _ => true) detour =
    .ok (.any [.all [.guard .string, .reference detourScope "L" cycle], .guard .number]) := rfl

set_option maxRecDepth 2000 in
theorem compile_detour : (compileDocument 0 detourDocument .null).run [] =
    (.ok (.reference detourScope "A" detour), [⟨0, "A"⟩, ⟨0, "L"⟩]) := rfl

/-! ## Validators that were built -/

/-- Whatever a validator is built of and however few frames there are, its test answers yes where
its diagnosis finds nothing and no where that finds a failure inside the limit. -/
theorem test_fits_diagnosis {marks : List Mark} {v : Validator} (hv : Built marks v) (limit : Nat) (x : Value) :
    ∃ d t, (diagnoseWithin Body.open limit v x).run marks = (.ok d, marks) ∧
      (testWithin Body.open limit v x).run marks = (.ok t, marks) ∧
      (d = none → t = true) ∧
      (∀ tree, d = some tree → (∀ n ∈ tree.nodes, n.operator ≠ "recursionLimit") → t = false) ∧
      ∀ y, (castWithin Body.open limit v x).run marks = (.ok (.ok y), marks) → y = x ∧ t = true := by
  have hd := diagnoseWithin_run limit hv.safe x
  obtain ⟨hn, hf⟩ := fits_within limit v x
  refine ⟨_, _, hd, testWithin_run limit hv.safe x, hn, ?_, ?_⟩
  · intro tree ht hl
    apply hf tree ht
    rintro ⟨n, hmem, ho⟩
    exact hl n hmem ho
  · intro y hy
    rw [castWithin_run hd] at hy
    obtain ⟨hnone, rfl⟩ := Verdict.toExcept_ok (Except.ok.inj (Prod.mk.inj hy).1)
    exact ⟨rfl, hn hnone⟩

/-- A disjunction with a definition on which the limit shows. -/
theorem test_fits_diagnosis_detour :
    let marks := [⟨0, "A"⟩, ⟨0, "L"⟩]
    let v := either [.guard .null, .reference detourScope "A" detour]
    ∃ d t, (diagnoseWithin Body.open 3 v (.int 1)).run marks = (.ok d, marks) ∧
      (testWithin Body.open 3 v (.int 1)).run marks = (.ok t, marks) ∧
      (d = none → t = true) ∧
      (∀ tree, d = some tree → (∀ n ∈ tree.nodes, n.operator ≠ "recursionLimit") → t = false) ∧
      ∀ y, (castWithin Body.open 3 v (.int 1)).run marks = (.ok (.ok y), marks) → y = .int 1 ∧ t = true := by
  refine test_fits_diagnosis (.either fun v hv => ?_) 3 (.int 1)
  rcases List.mem_cons.1 hv with rfl | hv
  · exact .guard .null
  · cases List.mem_singleton.1 hv
    exact .compiled (List.forall_mem_nil _) compile_detour (List.Subset.refl _)

/-! ## Documents that compiled -/

/-- Of what a document compiled to in a scope that was new, the diagnosis tells the rest: a check is
fine and a cast gives the value back where it finds nothing. The test answers the same, unless the
diagnosis mentions the frame limit. This takes it that one limit on the frames inside each other
holds for both of them. -/
theorem verdicts_of_compiled {id : Nat} {document definitions : Value} {before after : List Mark} {v : Validator}
    (fresh : ∀ m ∈ before, m.scope ≠ id)
    (h : (compileDocument id document definitions).run before = (.ok v, after)) (limit : Nat) (x : Value) :
    ∃ d t r c, (diagnoseWithin Body.open limit v x).run after = (.ok d, after) ∧
      (testWithin Body.open limit v x).run after = (.ok t, after) ∧
      (checkWithin Body.open limit v x).run after = (.ok r, after) ∧
      (castWithin Body.open limit v x).run after = (.ok c, after) ∧
      (r.ok = true ↔ d = none) ∧ (c = .ok x ↔ d = none) ∧ (∀ tree, c = .error tree ↔ d = some tree) ∧
      (d = none → t = true) ∧
      (t = true → d = none ∨ ∃ tree, d = some tree ∧ ∃ n ∈ tree.nodes, n.operator = "recursionLimit") := by
  have hs : v.Safe after := (Scope.compile_fresh fresh h).2.safe (List.Subset.refl _)
  have hd := diagnoseWithin_run limit hs x
  obtain ⟨hn, hf⟩ := fits_within limit v x
  refine ⟨_, _, _, _, hd, testWithin_run limit hs x, checkWithin_run hd, castWithin_run hd, Verdict.ok_iff,
    ?_, ?_, hn, ?_⟩
  · constructor
    · intro hc; exact (Verdict.toExcept_ok hc).1
    · intro hnone; rw [hnone]; rfl
  · intro tree
    cases failure? limit v x <;> simp [Verdict.toExcept]
  · intro ht
    cases htree : failure? limit v x with
    | none => exact .inl rfl
    | some tree =>
      refine .inr ⟨tree, rfl, Classical.byContradiction fun hl => ?_⟩
      rw [hf tree htree hl] at ht
      cases ht

theorem verdicts_of_compiled_detour :
    let marks := [⟨0, "A"⟩, ⟨0, "L"⟩]
    let v := .reference detourScope "A" detour
    ∃ d t r c, (diagnoseWithin Body.open 3 v .null).run marks = (.ok d, marks) ∧
      (testWithin Body.open 3 v .null).run marks = (.ok t, marks) ∧
      (checkWithin Body.open 3 v .null).run marks = (.ok r, marks) ∧
      (castWithin Body.open 3 v .null).run marks = (.ok c, marks) ∧
      (r.ok = true ↔ d = none) ∧ (c = .ok .null ↔ d = none) ∧ (∀ tree, c = .error tree ↔ d = some tree) ∧
      (d = none → t = true) ∧
      (t = true → d = none ∨ ∃ tree, d = some tree ∧ ∃ n ∈ tree.nodes, n.operator = "recursionLimit") :=
  verdicts_of_compiled (List.forall_mem_nil _) compile_detour 3 .null

/-- The test of a number leaves the first branch at its type. The diagnosis goes on into the cycle,
and all of `A` is lost to the frame limit, although the second branch accepts. -/
theorem detour_splits_test_and_diagnosis : ∃ v after,
    (compileDocument 0 detourDocument .null).run [] = (.ok v, after) ∧
    ∀ limit, (testWithin Body.open (limit + 1) v (.int 1)).run after = (.ok true, after) ∧
      (diagnoseWithin Body.open (limit + 1) v (.int 1)).run after = (.ok (some (recursionLimit (.int 1))), after) ∧
      (castWithin Body.open (limit + 1) v (.int 1)).run after = (.ok (.error (recursionLimit (.int 1))), after) := by
  have hs := (Scope.compile_fresh (List.forall_mem_nil _) compile_detour).2.safe (List.Subset.refl _)
  refine ⟨_, _, compile_detour, fun limit => ?_⟩
  have ht : testIn? (limit + 1) (.node detourScope detour) (.int 1) = some true := by
    rw [testIn?, Body.linked?_node.2 linked_detour]
    rfl
  have hd : diagnoseIn? (limit + 1) (.node detourScope detour) (.int 1) = none := by
    have hL : diagnoseIn? limit (.node detourScope cycle) (.int 1) = none := diagnoseIn?_cycle linked_cycle limit _
    rw [diagnoseIn?, Body.linked?_node.2 linked_detour]
    simp [diagnoseWith, diagnoseAny, diagnoseAll, hL]
  have htest := testWithin_run (limit + 1) hs (.int 1)
  have hdiagnose := diagnoseWithin_run (limit + 1) hs (.int 1)
  simp only [passes, testWith, ht] at htest
  simp only [failure?, diagnoseWith, hd] at hdiagnose
  exact ⟨htest, hdiagnose, castWithin_run hdiagnose⟩

end Conformance.Validator
