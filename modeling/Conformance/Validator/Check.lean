import Conformance.Validator.Diagnose
import Conformance.Validator.Test
/-!
# Checking values

Frames inside each other are limited: a cycle of references that consumes no input
runs into the limit. Then the outermost frame fails as a whole, with a single
`recursionLimit` leaf that carries the value it was given.
-/

namespace Conformance

namespace Validator

/-! ## Frames -/

section

variable {σ : Type} (opens : Body → Frame σ Validator)

/-- Tests with at most `limit` more frames inside each other. -/
def testFrame : Nat → Body → Value → Frame σ Bool
  | 0, _, _ => throw .frames
  | limit + 1, body, x => do testWith (testFrame limit) (← opens body) x

def diagnoseFrame : Nat → Body → Value → Frame σ (Option Diagnostic)
  | 0, _, _ => throw .frames
  | limit + 1, body, x => do diagnoseWith (diagnoseFrame limit) (← opens body) x

def recursionLimit (x : Value) : Diagnostic := .leaf "recursionLimit" x

/-- Whether the value passes, with at most `limit` frames inside each other. -/
def testWithin (limit : Nat) (v : Validator) (x : Value) : ExceptT SchemaError (StateM σ) Bool :=
  testWith (fun body x => (testFrame opens limit body x).close false) v x

/-- The failure of the value, or `none` if it passes. -/
def diagnoseWithin (limit : Nat) (v : Validator) (x : Value) :
    ExceptT SchemaError (StateM σ) (Option Diagnostic) :=
  diagnoseWith (fun body x => (diagnoseFrame opens limit body x).close (some (recursionLimit x))) v x

end

def test (limit : Nat) (v : Validator) (x : Value) : Build Bool := testWithin Body.open limit v x

def diagnose (limit : Nat) (v : Validator) (x : Value) : Build (Option Diagnostic) :=
  diagnoseWithin Body.open limit v x

/-! ## Verdicts -/

/-- A value with its failure, if it has one. -/
structure Verdict where
  value : Value
  failure : Option Diagnostic

namespace Verdict

def ok (r : Verdict) : Bool := r.failure.isNone

def message? (r : Verdict) : Option String := r.failure.map (·.text)

/-- The value itself, or its failure. -/
def toExcept (r : Verdict) : Except Diagnostic Value :=
  match r.failure with
  | none => .ok r.value
  | some d => .error d

end Verdict

section

variable {σ : Type} (opens : Body → Frame σ Validator)

def checkWithin (limit : Nat) (v : Validator) (x : Value) : ExceptT SchemaError (StateM σ) Verdict := do
  let d ← diagnoseWithin opens limit v x
  pure ⟨x, d⟩

/-- The value itself if it passes. -/
def castWithin (limit : Nat) (v : Validator) (x : Value) :
    ExceptT SchemaError (StateM σ) (Except Diagnostic Value) := do
  let r ← checkWithin opens limit v x
  pure r.toExcept

end

def check (limit : Nat) (v : Validator) (x : Value) : Build Verdict := checkWithin Body.open limit v x

def cast (limit : Nat) (v : Validator) (x : Value) : Build (Except Diagnostic Value) :=
  castWithin Body.open limit v x

def message? (limit : Nat) (v : Validator) (x : Value) : Build (Option String) := do
  let r ← check limit v x
  pure r.message?

end Validator

end Conformance
