import Conformance.Proofs.Linking
import Conformance.Validator.Check
/-!
# Answers without marks

Where every reference a validator can meet is safe, its checks never fail and mark nothing.
They give what the same evaluators give when a body is opened by linking, with no state at all.
-/

namespace Conformance

/-! ## Safe bodies -/

namespace Scope

/-- The known definitions link among themselves. -/
def Settled (scope : Scope) (known : String → Bool) : Prop :=
  ∀ name target, known name = true → scope.Defines name target → ∃ v, scope.linked known target = .ok v

end Scope

namespace Body

/-- What a body opens to, whatever is marked. -/
def linked? : Body → Option Validator
  | ready v => some v
  | node scope target => (scope.linked (fun _ => true) target).toOption

theorem linked?_node {scope : Scope} {target : Value} {v : Validator} :
    (node scope target).linked? = some v ↔ scope.linked (fun _ => true) target = .ok v := by
  rw [linked?]
  cases scope.linked (fun _ => true) target <;> simp [Except.toOption]

/-- Neither opening the body nor opening what it leads to can fail or mark a definition. -/
inductive Safe (marks : List Mark) : Body → Prop
  | ready {v : Validator} (h : ∀ b ∈ v.bodies, Safe marks b) : Safe marks (.ready v)
  | node {scope : Scope} {name : String} {target : Value} (known : String → Bool) (hs : scope.Settled known)
      (hm : ∀ n, known n = true → scope.marked marks n = true) (hk : known name = true)
      (hd : scope.Defines name target) : Safe marks (.node scope target)

theorem run_ofBuild {work : Build Validator} {v : Validator} {marks : List Mark}
    (h : work.run marks = (.ok v, marks)) : (Frame.ofBuild work).run marks = (.ok v, marks) := by
  show (Except.mapError Interrupt.schema (work.run marks).1, (work.run marks).2) = _
  rw [h]; rfl

variable {marks : List Mark}

/-- What links with definitions that are known and settled holds safe bodies only. -/
theorem safe_of_linked {scope : Scope} {known : String → Bool} (hs : scope.Settled known)
    (hm : ∀ n, known n = true → scope.marked marks n = true) {node : Value} {v : Validator}
    (h : scope.linked known node = .ok v) : ∀ b ∈ v.bodies, Safe marks b := by
  intro b hb
  obtain ⟨name, target, rfl, hd, hk⟩ := Scope.bodies_of_linked h b hb
  exact .node known hs hm hk hd

theorem Safe.opens {b : Body} (h : b.Safe marks) :
    ∃ v, b.linked? = some v ∧ b.open.run marks = (.ok v, marks) ∧ ∀ b' ∈ v.bodies, b'.Safe marks := by
  cases h with
  | @ready v h => exact ⟨v, rfl, rfl, h⟩
  | @node scope name target known hs hm hk hd =>
    obtain ⟨v, hv⟩ := hs name target hk hd
    have hl := linked?_node.2 (Scope.linked_mono (fun _ _ => rfl) hv)
    exact ⟨v, hl, run_ofBuild (Scope.compile_of_linked hm hv), safe_of_linked hs hm hv⟩

end Body

/-! ## Inside frames -/

namespace Validator

/-- Tests with at most `limit` more frames inside each other, without marks; `none` when the
frames run out. -/
def testIn? : Nat → Body → Value → Option Bool
  | 0, _, _ => none
  | limit + 1, b, x => do testWith (testIn? limit) (← b.linked?) x

def diagnoseIn? : Nat → Body → Value → Option (Option Diagnostic)
  | 0, _, _ => none
  | limit + 1, b, x => do diagnoseWith (diagnoseIn? limit) (← b.linked?) x

/-- What work inside a frame ends with, `none` standing for frames that ran out. -/
def outcome {α : Type} : Option α → Except Interrupt α
  | none => .error .frames
  | some a => .ok a

/-- At `marks` the left side ends as the right side does, and marks nothing. -/
def framed (marks : List Mark) : Simulation (Frame (List Mark)) Option where
  rel x y := x.run marks = (outcome y, marks)
  pure _ := rfl
  bind {_ _ x y f g} hx hf := by
    rw [run_bind, hx]
    cases y with
    | none => rfl
    | some a => exact hf a

variable {marks : List Mark}

theorem testFrame_run (limit : Nat) {b : Body} (hb : b.Safe marks) (x : Value) :
    (testFrame Body.open limit b x).run marks = (outcome (testIn? limit b x), marks) := by
  induction limit generalizing b x with
  | zero => rfl
  | succ limit ih =>
    -- what is opened holds safe bodies again, and they have one frame less
    obtain ⟨v, hl, ho, hv⟩ := hb.opens
    rw [testFrame, run_bind_of_ok ho, testIn?, hl]
    exact (framed marks).testWith v x fun b hb y => ih (hv b hb) y

theorem diagnoseFrame_run (limit : Nat) {b : Body} (hb : b.Safe marks) (x : Value) :
    (diagnoseFrame Body.open limit b x).run marks = (outcome (diagnoseIn? limit b x), marks) := by
  induction limit generalizing b x with
  | zero => rfl
  | succ limit ih =>
    obtain ⟨v, hl, ho, hv⟩ := hb.opens
    rw [diagnoseFrame, run_bind_of_ok ho, diagnoseIn?, hl]
    exact (framed marks).diagnoseWith v x fun b hb y => ih (hv b hb) y

/-! ## Outermost frames -/

/-- Whether the value passes, when no definition fails to compile. -/
def passes (limit : Nat) (v : Validator) (x : Value) : Bool :=
  Id.run (testWith (fun b y => pure ((testIn? limit b y).getD false)) v x)

/-- The failure of the value, when no definition fails to compile. -/
def failure? (limit : Nat) (v : Validator) (x : Value) : Option Diagnostic :=
  Id.run (diagnoseWith (fun b y => pure ((diagnoseIn? limit b y).getD (some (recursionLimit y)))) v x)

/-- At `marks` the left side finds the right side, and marks nothing. -/
def closed (marks : List Mark) : Simulation Build Id where
  rel x y := x.run marks = (.ok (Id.run y), marks)
  pure _ := rfl
  bind {_ _ x y f g} hx hf := by
    rw [run_bind_of_ok hx]
    exact hf (Id.run y)

/-- What an outermost frame makes of the end of the work inside. -/
def closing {α : Type} (fallback : α) : Except Interrupt α → Except SchemaError α
  | .ok a => .ok a
  | .error .frames => .ok fallback
  | .error (.schema e) => .error e

theorem run_close {σ α : Type} (work : Frame σ α) (fallback : α) (s : σ) :
    (work.close fallback).run s = (closing fallback (work.run s).1, (work.run s).2) := by
  show (match (work.run s).1 with
    | .ok a => (pure (.ok a) : StateM σ (Except SchemaError α))
    | .error .frames => pure (.ok fallback)
    | .error (.schema e) => pure (.error e)) (work.run s).2 = _
  rcases (work.run s).1 with ⟨_ | e⟩ | a <;> rfl

theorem run_close_outcome {α : Type} {work : Frame (List Mark) α} {r : Option α}
    (h : work.run marks = (outcome r, marks)) (fallback : α) :
    (work.close fallback).run marks = (.ok (r.getD fallback), marks) := by
  rw [run_close, h]
  cases r <;> rfl

/-- A check of the validator can open safe bodies only. -/
def Safe (marks : List Mark) (v : Validator) : Prop := ∀ b ∈ v.bodies, b.Safe marks

theorem testWithin_run (limit : Nat) {v : Validator} (hv : v.Safe marks) (x : Value) :
    (testWithin Body.open limit v x).run marks = (.ok (passes limit v x), marks) :=
  (closed marks).testWith v x fun b hb y => run_close_outcome (testFrame_run limit (hv b hb) y) false

theorem diagnoseWithin_run (limit : Nat) {v : Validator} (hv : v.Safe marks) (x : Value) :
    (diagnoseWithin Body.open limit v x).run marks = (.ok (failure? limit v x), marks) :=
  (closed marks).diagnoseWith v x fun b hb y => run_close_outcome (diagnoseFrame_run limit (hv b hb) y) _

end Validator

end Conformance
