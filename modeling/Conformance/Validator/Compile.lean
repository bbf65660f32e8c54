import Conformance.Schema.Basic
import Conformance.Validator.Basic
/-!
# Compiling schemas

A schema compiles to a validator, each constraint on its own and in the order of the
schema; the first one that does not compile ends the work. What a reference compiles
to is left to the caller.
-/

namespace Conformance

/-- A definition of a scope that has been checked. -/
structure Mark where
  scope : Nat
  name : String
deriving DecidableEq

/-- Work that may fail and marks definitions, in the order in which they are
checked; marks stay when it fails. -/
abbrev Build (α : Type) : Type := ExceptT SchemaError (StateM (List Mark)) α

def Build.ofExcept {α : Type} (r : Except SchemaError α) : Build α := ExceptT.mk (pure r)

/-! ## Constraints -/

/-- An `integer` is a number like any other. -/
def Kind.ofTypeName? : Value → Option Kind
  | .str "string" => some .string
  | .str "number" => some .number
  | .str "integer" => some .number
  | .str "boolean" => some .boolean
  | .str "object" => some .object
  | .str "array" => some .array
  | .str "null" => some .null
  | _ => none

namespace Validator

def ofTypeName (spec : Value) : Except SchemaError Validator :=
  match Kind.ofTypeName? spec with
  | some kind => pure (guard kind)
  | none => throw (.unknownType spec)

/-- One type name, or a list of which one must hold. -/
def ofType : Value → Except SchemaError Validator
  | .arr _ specs => either <$> specs.mapM ofTypeName
  | spec => ofTypeName spec

def shapeUnlessEmpty (coverage : Coverage) : List (String × Validator) → List Validator
  | [] => []
  | fields => [shape coverage fields]

/-- Required fields must be there, the others may be. -/
def ofProperties (required : List String) (fields : List (String × Validator)) : Validator :=
  let (needed, optional) := fields.partition fun (key, _) => required.contains key
  every (shapeUnlessEmpty .full needed ++ shapeUnlessEmpty .present optional)

end Validator

/-! ## Schemas -/

section

variable {m : Type → Type} [Monad m] [MonadExcept SchemaError m]

mutual

def Schema.compileWith (resolve : Value → m Validator) : Schema → m Validator
  | .anything => pure .anything
  | .all parts => do pure (Validator.every (← Schema.compileAll resolve parts))
  | .choice branches => do pure (Validator.either (← Schema.compileAll resolve branches))
  | .reference ref => resolve ref
  | .type spec => MonadExcept.ofExcept (Validator.ofType spec)
  | .required keys => pure (Validator.every (keys.map .hasKey))
  | .properties needed fields => do
    pure (Validator.ofProperties needed (← Schema.compileFields resolve fields))
  | .items element => do pure (.arrayOf (← Schema.compileWith resolve element))
  | .positions elements => do pure (.tupleOf (← Schema.compileAll resolve elements))
  | .enum values => pure (Validator.either (values.map .literal))

def Schema.compileAll (resolve : Value → m Validator) : List Schema → m (List Validator)
  | [] => pure []
  | s :: rest => do
    let v ← Schema.compileWith resolve s
    let vs ← Schema.compileAll resolve rest
    pure (v :: vs)

def Schema.compileFields (resolve : Value → m Validator) :
    List (String × Schema) → m (List (String × Validator))
  | [] => pure []
  | (k, s) :: rest => do
    let v ← Schema.compileWith resolve s
    let vs ← Schema.compileFields resolve rest
    pure ((k, v) :: vs)

end

end

end Conformance
