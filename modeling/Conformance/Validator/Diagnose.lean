import Conformance.Diagnostic
import Conformance.Validator.Frame
import Conformance.Value.Equality
/-!
# Why a value fails

The answer is the failure, if there is one. Every member of a conjunction is looked
into, and those of a disjunction up to the first that accepts.
-/

namespace Conformance.Validator

variable {m : Type → Type} [Monad m]

def leafUnless (holds : Bool) (operator : String) (x : Value) : Option Diagnostic :=
  if holds then none else some (.leaf operator x)

/-- The failures of `diagnose` on the items from `position` on, under their positions. -/
def diagnoseItems (diagnose : Value → m (Option Diagnostic)) (position : Nat) :
    List Value → m (List Diagnostic)
  | [] => pure []
  | x :: xs => do
    let d ← diagnose x
    let ds ← diagnoseItems diagnose (position + 1) xs
    pure ((d.map (·.under (.index position))).toList ++ ds)

mutual

/-- What is deferred is left to `enter`. -/
def diagnoseWith (enter : Body → Value → m (Option Diagnostic)) :
    Validator → Value → m (Option Diagnostic)
  | anything, _ => pure none
  | guard kind, x => pure (leafUnless (x.hasKind kind) kind.name x)
  | literal expected, x => pure (leafUnless (x.same expected) (literalName expected) x)
  | all members, x => do pure (Diagnostic.ofChildren "every" x (← diagnoseAll enter members x))
  | any members, x => do
    pure ((← diagnoseAny enter members x).map fun ds => .node "some" x ds none)
  | hasKey key, .obj entries =>
    pure (if Entries.has key entries then none
      else some (.node "required" (.obj entries) [.missing (.obj entries) key] none))
  | hasKey _, x => pure (some (.leaf "required" x))
  | shape coverage fields, .obj entries => do
    let ds ← diagnoseFields enter coverage fields entries
    pure (Diagnostic.ofChildren (shapeName coverage) (.obj entries) ds)
  | shape coverage _, x => pure (some (.leaf (shapeName coverage) x))
  | arrayOf element, .arr sequence items => do
    let ds ← diagnoseItems (fun x => diagnoseWith enter element x) 0 items
    pure (Diagnostic.ofChildren "arrayOf" (.arr sequence items) ds)
  | arrayOf _, x => pure (some (.leaf "arrayOf" x))
  | tupleOf positions, .arr sequence items => do
    let ds ← diagnosePositions enter 0 positions items
    pure (Diagnostic.ofChildren "tupleOf" (.arr sequence items) ds)
  | tupleOf _, x => pure (some (.leaf "tupleOf" x))
  | deferred _ body, x => enter (.ready body) x
  | reference scope _ target, x => enter (.node scope target) x

def diagnoseAll (enter : Body → Value → m (Option Diagnostic)) :
    List Validator → Value → m (List Diagnostic)
  | [], _ => pure []
  | v :: vs, x => do
    let d ← diagnoseWith enter v x
    let ds ← diagnoseAll enter vs x
    pure (d.toList ++ ds)

/-- The failures of all members, or `none` when one accepts. -/
def diagnoseAny (enter : Body → Value → m (Option Diagnostic)) :
    List Validator → Value → m (Option (List Diagnostic))
  | [], _ => pure (some [])
  | v :: vs, x => do
    match ← diagnoseWith enter v x with
    | none => pure none
    | some d => do pure ((← diagnoseAny enter vs x).map (d :: ·))

def diagnoseFields (enter : Body → Value → m (Option Diagnostic)) (coverage : Coverage) :
    List (String × Validator) → List (String × Value) → m (List Diagnostic)
  | [], _ => pure []
  | (key, v) :: fields, entries =>
    match entries.lookup key with
    | none => do
      let ds ← diagnoseFields enter coverage fields entries
      pure (match coverage with
        | .full => .missing (.obj entries) key :: ds
        | .present => ds)
    | some x => do
      let d ← diagnoseWith enter v x
      let ds ← diagnoseFields enter coverage fields entries
      pure ((d.map (·.under (.key key))).toList ++ ds)

def diagnosePositions (enter : Body → Value → m (Option Diagnostic)) (position : Nat) :
    List Validator → List Value → m (List Diagnostic)
  | v :: vs, x :: xs => do
    let d ← diagnoseWith enter v x
    let ds ← diagnosePositions enter (position + 1) vs xs
    pure ((d.map (·.under (.index position))).toList ++ ds)
  | _, _ => pure []

end

end Conformance.Validator
