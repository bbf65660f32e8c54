import Conformance.Validator.Frame
import Conformance.Value.Equality
/-!
# Whether a value passes

The answer is yes or no; members are asked in order, up to the first that decides.
-/

namespace Conformance.Validator

variable {m : Type → Type} [Monad m]

mutual

/-- What is deferred is left to `enter`. -/
def testWith (enter : Body → Value → m Bool) : Validator → Value → m Bool
  | anything, _ => pure true
  | guard kind, x => pure (x.hasKind kind)
  | literal expected, x => pure (x.same expected)
  | all members, x => testAll enter members x
  | any members, x => testAny enter members x
  | hasKey key, .obj entries => pure (Entries.has key entries)
  | hasKey _, _ => pure false
  | shape coverage fields, .obj entries => testFields enter coverage fields entries
  | shape .., _ => pure false
  | arrayOf element, .arr _ items => items.allM fun x => testWith enter element x
  | arrayOf _, _ => pure false
  | tupleOf positions, .arr _ items => testPositions enter positions items
  | tupleOf _, _ => pure false
  | deferred _ body, x => enter (.ready body) x
  | reference scope _ target, x => enter (.node scope target) x

def testAll (enter : Body → Value → m Bool) : List Validator → Value → m Bool
  | [], _ => pure true
  | v :: vs, x => do if ← testWith enter v x then testAll enter vs x else pure false

def testAny (enter : Body → Value → m Bool) : List Validator → Value → m Bool
  | [], _ => pure false
  | v :: vs, x => do if ← testWith enter v x then pure true else testAny enter vs x

def testFields (enter : Body → Value → m Bool) (coverage : Coverage) :
    List (String × Validator) → List (String × Value) → m Bool
  | [], _ => pure true
  | (key, v) :: fields, entries =>
    match entries.lookup key with
    | none =>
      match coverage with
      | .full => pure false
      | .present => testFields enter coverage fields entries
    | some x => do
      if ← testWith enter v x then testFields enter coverage fields entries else pure false

/-- Items past the last position are free. -/
def testPositions (enter : Body → Value → m Bool) : List Validator → List Value → m Bool
  | v :: vs, x :: xs => do
    if ← testWith enter v x then testPositions enter vs xs else pure false
  | _, _ => pure true

end

end Conformance.Validator
