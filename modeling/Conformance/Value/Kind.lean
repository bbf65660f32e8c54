import Conformance.Value.Basic
/-!
# Kinds

The six kinds of JSON. A boolean is not a number, and lists and tuples are both
arrays.
-/

namespace Conformance

inductive Kind where
  | string
  | number
  | boolean
  | object
  | array
  | null
deriving DecidableEq

namespace Kind

def name : Kind → String
  | string => "string"
  | number => "number"
  | boolean => "boolean"
  | object => "object"
  | array => "array"
  | null => "null"

def all : List Kind := [string, number, boolean, object, array, null]

end Kind

namespace Value

/-- A foreign value has no kind. -/
def kind? : Value → Option Kind
  | .null => some .null
  | .bool _ => some .boolean
  | .num _ => some .number
  | .str _ => some .string
  | .arr .. => some .array
  | .obj _ => some .object
  | .foreign .. => none

/-- The kind, or the name of the class. -/
def kindName : Value → String
  | .null => Kind.null.name
  | .bool _ => Kind.boolean.name
  | .num _ => Kind.number.name
  | .str _ => Kind.string.name
  | .arr .. => Kind.array.name
  | .obj _ => Kind.object.name
  | .foreign id _ => id.typeName

def hasKind (k : Kind) (v : Value) : Bool := v.kind? == some k

end Value

end Conformance
