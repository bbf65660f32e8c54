import Conformance.Schema.Error
/-!
# Validators

A validator is a check of a value, built from primitive checks by combinators. A
deferred check carries a ready validator, a reference the node of a definition that
is compiled when a value arrives; both are opened one frame at a time.

`every` and `either` build conjunctions and disjunctions in normal form: members
are spliced in, a check that accepts anything is dropped from a conjunction and
absorbs a disjunction, and a single member stands for itself.
-/

namespace Conformance

/-- Where references are looked up. The number tells scopes apart that hold the
same definitions. -/
structure Scope where
  id : Nat
  definitions : Option Definitions

/-- Whether an object must have every named key. -/
inductive Coverage where
  | full
  | present
deriving DecidableEq

inductive Validator where
  | anything
  | guard (kind : Kind)
  | literal (expected : Value)
  | all (members : List Validator)
  | any (members : List Validator)
  | hasKey (key : String)
  | shape (coverage : Coverage) (fields : List (String × Validator))
  | arrayOf (element : Validator)
  | tupleOf (positions : List Validator)
  | deferred (name : String) (body : Validator)
  | reference (scope : Scope) (name : String) (target : Value)
deriving Inhabited

namespace Validator

/-! ## Names -/

/-- A text is its own tag. -/
def literalTag : Value → String
  | .str s => s
  | v => v.render

def literalName (expected : Value) : String := s!"literal[{literalTag expected}]"

def shapeName : Coverage → String
  | .full => "shape"
  | .present => "partialShape"

/-- The operator a failure of the check is reported under. -/
def name : Validator → String
  | anything => "any"
  | guard kind => kind.name
  | literal expected => literalName expected
  | all _ => "every"
  | any _ => "some"
  | hasKey _ => "required"
  | shape coverage _ => shapeName coverage
  | arrayOf _ => "arrayOf"
  | tupleOf _ => "tupleOf"
  | deferred name _ => name
  | reference _ name _ => s!"ref[{name}]"

def className : Validator → String
  | anything => "_AnyValidator"
  | guard _ => "Guard"
  | literal _ => "Literal"
  | all _ => "Every"
  | any _ => "Some"
  | hasKey _ => "HasKey"
  | shape .. => "Shape"
  | arrayOf _ | tupleOf _ => "ArrayElements"
  | deferred .. | reference .. => "Lazy"

def describe (v : Validator) : String := s!"<{v.className} {v.name}>"

/-! ## Combinators -/

/-- What a validator adds to a conjunction. -/
def conjuncts : Validator → List Validator
  | anything => []
  | all members => members
  | v => [v]

def every (vs : List Validator) : Validator :=
  match vs.flatMap conjuncts with
  | [] => anything
  | [v] => v
  | members => all members

/-- What a validator adds to a disjunction. -/
def disjuncts : Validator → List Validator
  | any members => members
  | v => [v]

def isAnything : Validator → Bool
  | anything => true
  | _ => false

def either (vs : List Validator) : Validator :=
  if vs.any isAnything then anything
  else match vs.flatMap disjuncts with
    | [v] => v
    | members => any members

end Validator

end Conformance
