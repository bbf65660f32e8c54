import Conformance.Value.Render
/-!
# Why a schema does not compile

Each cause has a code and a sentence that shows the offending part. A part that cannot
be displayed, such as a whole number with too many digits, leaves the cause without one.
-/

namespace Conformance

abbrev Definitions : Type := List (String × Value)

inductive SchemaError where
  | unknownType (spec : Value)
  | refNotText (ref : Value)
  | refMalformed (ref : String)
  | noDefinitions (ref : String)
  | notDefined (ref name : String) (definitions : Definitions)

namespace SchemaError

def code : SchemaError → String
  | unknownType _ => "SCHEMA_TYPE_UNRECOGNIZED"
  | refNotText _ | refMalformed _ => "REF_MALFORMED"
  | noDefinitions _ => "REF_DEFINITIONS_REQUIRED"
  | notDefined .. => "REF_NOT_FOUND"

def knownTypes : String :=
  "['array', 'boolean', 'integer', 'null', 'number', 'object', 'string']"

def detail? : SchemaError → Option String
  | unknownType spec => spec.display.map fun shown => s!"{shown} (known: {knownTypes})"
  | refNotText ref => some s!"$ref must be a string, got {ref.render}"
  | refMalformed ref => some (Text.quoted ref ++ " (expected '#/definitions/<name>')")
  | noDefinitions ref =>
    some (Text.quoted ref ++ " cannot be resolved: schema has no definitions table")
  | notDefined ref name definitions =>
    some (s!"{Text.quoted ref} has no entry {Text.quoted name} in definitions " ++
      (Value.obj definitions).render)

def message? (e : SchemaError) : Option String := e.detail?.map fun detail => s!"{e.code}: {detail}"

end SchemaError

end Conformance
