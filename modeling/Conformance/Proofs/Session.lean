import Conformance.Proofs.Verdict
/-!
# Sessions

Once a document has compiled, its validator is used by calls, one after another. No call fails
or marks a definition, so none can tell which calls were made before it. Watching a session
shows what its calls compile: only definitions that were checked, each to what its check had
compiled it to.
-/

namespace Conformance

/-! ## Calls -/

namespace Validator

inductive Call where
  | test (x : Value)
  | diagnose (x : Value)
  | cast (x : Value)
  | check (x : Value)

inductive Answer where
  | test (passes : Bool)
  | diagnose (failure : Option Diagnostic)
  | cast (result : Except Diagnostic Value)
  | check (verdict : Verdict)

section

variable {σ : Type} (opens : Body → Frame σ Validator) (limit : Nat) (v : Validator)

def call : Call → ExceptT SchemaError (StateM σ) Answer
  | .test x => do pure (.test (← testWithin opens limit v x))
  | .diagnose x => do pure (.diagnose (← diagnoseWithin opens limit v x))
  | .cast x => do pure (.cast (← castWithin opens limit v x))
  | .check x => do pure (.check (← checkWithin opens limit v x))

/-- The calls in their order; the first error ends the session. -/
def session : List Call → ExceptT SchemaError (StateM σ) (List Answer)
  | [] => pure []
  | c :: calls => do
    let a ← call opens limit v c
    let as ← session calls
    pure (a :: as)

end

/-- The answer to a call, when no definition fails to compile. -/
def answer (limit : Nat) (v : Validator) : Call → Answer
  | .test x => .test (passes limit v x)
  | .diagnose x => .diagnose (failure? limit v x)
  | .cast x => .cast (Verdict.mk x (failure? limit v x)).toExcept
  | .check x => .check ⟨x, failure? limit v x⟩

section Unwatched

variable {marks : List Mark} {v : Validator}

theorem call_run (limit : Nat) (hv : v.Safe marks) (c : Call) :
    (call Body.open limit v c).run marks = (.ok (answer limit v c), marks) := by
  cases c with
  | test x =>
    rw [call, run_bind_of_ok (testWithin_run limit hv x)]
    rfl
  | diagnose x =>
    rw [call, run_bind_of_ok (diagnoseWithin_run limit hv x)]
    rfl
  | cast x =>
    rw [call, run_bind_of_ok (castWithin_run (diagnoseWithin_run limit hv x))]
    rfl
  | check x =>
    rw [call, run_bind_of_ok (checkWithin_run (diagnoseWithin_run limit hv x))]
    rfl

theorem session_run (limit : Nat) (hv : v.Safe marks) (calls : List Call) :
    (session Body.open limit v calls).run marks = (.ok (calls.map (answer limit v)), marks) := by
  induction calls with
  | nil => rfl
  | cons c calls ih =>
    rw [session, run_bind_of_ok (call_run limit hv c), run_bind_of_ok ih]
    rfl

end Unwatched

/-! ## Watching -/

/-- One opening of a body, and what it gave. -/
structure Opening where
  body : Body
  result : Except Interrupt Validator

/-- Opens the body and writes the opening down. -/
def watch (b : Body) : Frame (List Mark × List Opening) Validator := ExceptT.mk fun (marks, log) =>
  let (result, marks') := b.open.run marks
  (result, marks', log ++ [⟨b, result⟩])

theorem run_watch (b : Body) (marks : List Mark) (log : List Opening) : (watch b).run (marks, log) =
    ((b.open.run marks).1, (b.open.run marks).2, log ++ [⟨b, (b.open.run marks).1⟩]) := rfl

/-- At `marks` watched work ends as it does unwatched, marks nothing, and has opened what `P` allows. -/
def watched (ε : Type) (marks : List Mark) (P : Opening → Prop) :
    Simulation (ExceptT ε (StateM (List Mark × List Opening))) (ExceptT ε (StateM (List Mark))) where
  rel x y := ∀ log, ∃ r new,
    x.run (marks, log) = (r, marks, log ++ new) ∧ y.run marks = (r, marks) ∧ ∀ o ∈ new, P o
  pure a log := ⟨.ok a, [], by rw [List.append_nil, run_pure], rfl, nofun⟩
  bind {_ _ x y f g} hx hf log := by
    obtain ⟨r, new, hrun, hrun', hnew⟩ := hx log
    rw [run_bind, run_bind, hrun, hrun']
    cases r with
    | error e => exact ⟨.error e, new, rfl, rfl, hnew⟩
    | ok a =>
      obtain ⟨r, more, h, h', hmore⟩ := hf a (log ++ new)
      refine ⟨r, new ++ more, ?_, h', ?_⟩
      · rw [← List.append_assoc]; exact h
      · intro o ho
        rcases List.mem_append.1 ho with ho | ho
        · exact hnew o ho
        · exact hmore o ho

section Watched

variable {marks : List Mark} {P : Opening → Prop}

theorem watched_open {α : Type} {b : Body} {w : Validator} {f : Validator → Frame (List Mark × List Opening) α}
    {g : Validator → Frame (List Mark) α} (ho : b.open.run marks = (.ok w, marks)) (hP : P ⟨b, .ok w⟩)
    (hf : (watched Interrupt marks P).rel (f w) (g w)) :
    (watched Interrupt marks P).rel (watch b >>= f) (b.open >>= g) := by
  intro log
  -- the opening comes first in what is written down
  have hw : (watch b).run (marks, log) = (.ok w, marks, log ++ [⟨b, .ok w⟩]) := by
    rw [run_watch, ho]
  obtain ⟨r, new, h, h', hnew⟩ := hf (log ++ [⟨b, .ok w⟩])
  refine ⟨r, ⟨b, .ok w⟩ :: new, ?_, ?_, List.forall_mem_cons.2 ⟨hP, hnew⟩⟩
  · rw [run_bind_of_ok hw, h, List.append_assoc]; rfl
  · rw [run_bind_of_ok ho, h']

theorem watched_close {α : Type} {x : Frame (List Mark × List Opening) α} {y : Frame (List Mark) α}
    (h : (watched Interrupt marks P).rel x y) (fallback : α) :
    (watched SchemaError marks P).rel (x.close fallback) (y.close fallback) := by
  intro log
  obtain ⟨r, new, hx, hy, hnew⟩ := h log
  refine ⟨closing fallback r, new, ?_, ?_, hnew⟩
  · rw [run_close, hx]
  · rw [run_close, hy]

/-- What `I` holds opens as `P` allows, and only to what `I` holds again. -/
def Opens (marks : List Mark) (P : Opening → Prop) (I : Body → Prop) : Prop :=
  ∀ b, I b → ∃ w, b.open.run marks = (.ok w, marks) ∧ P ⟨b, .ok w⟩ ∧ ∀ b' ∈ w.bodies, I b'

variable {I : Body → Prop}

theorem testFrame_watched (hI : Opens marks P I) (limit : Nat) {b : Body} (hb : I b) (x : Value) :
    (watched Interrupt marks P).rel (testFrame watch limit b x) (testFrame Body.open limit b x) := by
  induction limit generalizing b x with
  | zero => exact fun log => ⟨.error .frames, [], by rw [List.append_nil]; rfl, rfl, nofun⟩
  | succ limit ih =>
    obtain ⟨w, ho, hP, hw⟩ := hI b hb
    exact watched_open ho hP ((watched Interrupt marks P).testWith w x fun b hb y => ih (hw b hb) y)

theorem diagnoseFrame_watched (hI : Opens marks P I) (limit : Nat) {b : Body} (hb : I b) (x : Value) :
    (watched Interrupt marks P).rel (diagnoseFrame watch limit b x) (diagnoseFrame Body.open limit b x) := by
  induction limit generalizing b x with
  | zero => exact fun log => ⟨.error .frames, [], by rw [List.append_nil]; rfl, rfl, nofun⟩
  | succ limit ih =>
    obtain ⟨w, ho, hP, hw⟩ := hI b hb
    exact watched_open ho hP ((watched Interrupt marks P).diagnoseWith w x fun b hb y => ih (hw b hb) y)

variable {v : Validator}

theorem testWithin_watched (hI : Opens marks P I) (hv : ∀ b ∈ v.bodies, I b) (limit : Nat) (x : Value) :
    (watched SchemaError marks P).rel (testWithin watch limit v x) (testWithin Body.open limit v x) := by
  refine (watched SchemaError marks P).testWith v x fun b hb y => ?_
  exact watched_close (testFrame_watched hI limit (hv b hb) y) _

theorem diagnoseWithin_watched (hI : Opens marks P I) (hv : ∀ b ∈ v.bodies, I b) (limit : Nat) (x : Value) :
    (watched SchemaError marks P).rel (diagnoseWithin watch limit v x) (diagnoseWithin Body.open limit v x) := by
  refine (watched SchemaError marks P).diagnoseWith v x fun b hb y => ?_
  exact watched_close (diagnoseFrame_watched hI limit (hv b hb) y) _

theorem checkWithin_watched (hI : Opens marks P I) (hv : ∀ b ∈ v.bodies, I b) (limit : Nat) (x : Value) :
    (watched SchemaError marks P).rel (checkWithin watch limit v x) (checkWithin Body.open limit v x) :=
  (watched SchemaError marks P).bind (diagnoseWithin_watched hI hv limit x) fun _ => Simulation.pure _ _

theorem castWithin_watched (hI : Opens marks P I) (hv : ∀ b ∈ v.bodies, I b) (limit : Nat) (x : Value) :
    (watched SchemaError marks P).rel (castWithin watch limit v x) (castWithin Body.open limit v x) :=
  (watched SchemaError marks P).bind (checkWithin_watched hI hv limit x) fun _ => Simulation.pure _ _

theorem call_watched (hI : Opens marks P I) (hv : ∀ b ∈ v.bodies, I b) (limit : Nat) (c : Call) :
    (watched SchemaError marks P).rel (call watch limit v c) (call Body.open limit v c) := by
  cases c with
  | test x => exact (watched SchemaError marks P).bind (testWithin_watched hI hv limit x) fun _ => Simulation.pure _ _
  | diagnose x =>
    exact (watched SchemaError marks P).bind (diagnoseWithin_watched hI hv limit x) fun _ => Simulation.pure _ _
  | cast x => exact (watched SchemaError marks P).bind (castWithin_watched hI hv limit x) fun _ => Simulation.pure _ _
  | check x =>
    exact (watched SchemaError marks P).bind (checkWithin_watched hI hv limit x) fun _ => Simulation.pure _ _

theorem session_watched (hI : Opens marks P I) (hv : ∀ b ∈ v.bodies, I b) (limit : Nat) (calls : List Call) :
    (watched SchemaError marks P).rel (session watch limit v calls) (session Body.open limit v calls) := by
  induction calls with
  | nil => exact Simulation.pure _ _
  | cons c calls ih =>
    refine (watched SchemaError marks P).bind (call_watched hI hv limit c) fun a => ?_
    exact (watched SchemaError marks P).bind ih fun _ => Simulation.pure _ _

end Watched

end Validator

/-! ## Openings of a scope -/

namespace Scope

/-- The opening compiled a definition of the scope, to what the check of it had compiled it to
right after its mark was set, and to what it compiles to at all, whatever is marked. -/
def Recompiles (scope : Scope) (marks : List Mark) (o : Validator.Opening) : Prop :=
  ∃ name target w, o.body = .node scope target ∧ o.result = .ok w ∧ scope.Checked marks name target w ∧
    ∀ fuel before w' after,
      ((Schema.ofValue target).compileWith (scope.resolveWithin fuel)).run before = (.ok w', after) → w' = w

/-- The body is a definition of the scope that has a mark. -/
def Holds (scope : Scope) (marks : List Mark) (b : Body) : Prop :=
  ∃ name target, b = .node scope target ∧ scope.Defines name target ∧ scope.marked marks name = true

variable {scope : Scope} {marks : List Mark} {node : Value} {v : Validator}

theorem Checked.unique {name : String} {target : Value} {w w' : Validator} (hc : scope.Checked marks name target w)
    {fuel : Nat} {before after : List Mark}
    (h : ((Schema.ofValue target).compileWith (scope.resolveWithin fuel)).run before = (.ok w', after)) :
    w' = w := by
  have hw := linked_mono (fun _ _ => rfl) hc.linked
  rw [linked_of_compile h] at hw
  exact Except.ok.inj hw

theorem Compiled.opens (h : scope.Compiled marks node v) :
    Validator.Opens marks (scope.Recompiles marks) (scope.Holds marks) := by
  rintro b ⟨name, target, rfl, hd, hm⟩
  obtain ⟨target', w, hc⟩ := h.checked name hm
  cases hc.defines.unique hd
  refine ⟨w, Body.run_ofBuild (compile_of_linked (fun _ hk => hk) hc.linked), ?_, bodies_of_linked hc.linked⟩
  exact ⟨name, _, w, rfl, rfl, hc, fun _ _ _ _ => hc.unique⟩

end Scope

namespace Validator

/-- After a document has compiled in a scope that was new, no calls of its validator fail or mark a
definition. The answer to each is fixed before the first of them is made. And all that a watched
session opens has been compiled before, to the same validator. -/
theorem session_of_compiled {id : Nat} {document definitions : Value} {before after : List Mark} {v : Validator}
    (fresh : ∀ m ∈ before, m.scope ≠ id)
    (h : (compileDocument id document definitions).run before = (.ok v, after)) (limit : Nat) :
    ∃ answer : Call → Answer, ∀ calls,
      (session Body.open limit v calls).run after = (.ok (calls.map answer), after) ∧
      ∃ log, (session watch limit v calls).run (after, []) = (.ok (calls.map answer), after, log) ∧
        ∀ o ∈ log, Scope.Recompiles ⟨id, effectiveDefinitions document definitions⟩ after o := by
  obtain ⟨_, hc⟩ := Scope.compile_fresh fresh h
  refine ⟨answer limit v, fun calls => ?_⟩
  have hrun := session_run limit (hc.safe (List.Subset.refl _)) calls
  obtain ⟨r, log, hwatched, hrun', hlog⟩ :=
    session_watched hc.opens (Scope.bodies_of_linked hc.linked) limit calls []
  rw [hrun] at hrun'
  cases hrun'
  exact ⟨hrun, log, hwatched, hlog⟩

set_option maxRecDepth 2000 in
/-- A watched test opens the first definition, and a diagnosis goes on into the cycle. -/
theorem session_of_detour :
    let marks := [⟨0, "A"⟩, ⟨0, "L"⟩]
    let v := .reference detourScope "A" detour
    (∃ answer : Call → Answer, ∀ calls,
      (session Body.open 3 v calls).run marks = (.ok (calls.map answer), marks) ∧
      ∃ log, (session watch 3 v calls).run (marks, []) = (.ok (calls.map answer), marks, log) ∧
        ∀ o ∈ log, Scope.Recompiles ⟨0, effectiveDefinitions detourDocument .null⟩ marks o) ∧
      ((session watch 3 v [.test (.int 1), .diagnose (.int 1)]).run (marks, [])).2.2.length = 4 :=
  ⟨session_of_compiled (List.forall_mem_nil _) compile_detour 3, rfl⟩

end Validator

end Conformance
