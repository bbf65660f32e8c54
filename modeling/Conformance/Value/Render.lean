import Conformance.Json.Writer
import Conformance.Text.Quoted
import Conformance.Value.Kind
/-!
# Rendered values

A value in a message is its compact JSON. A value that has none is displayed
instead: items and entries are set apart by a comma and a space, tuples stand in
parentheses, and texts are quoted. Where nothing can be displayed (a foreign value
without a text, a whole number too long to write) only the name of the type is
left. A value may be nested to any depth: that it can be too deep to be written, and
then to be displayed, is left out.
-/

namespace Conformance.Value

def displayWords : Binary64.Words := ⟨"inf", "nan"⟩

def displayNumber : Number → Option String
  | .int n =>
    if (Nat.toDigits 10 n.natAbs).length ≤ Number.digitLimit then
      some (String.ofList (Json.writeInt n))
    else none
  | .float x => some (x.text displayWords)
  | .decimal d => some s!"Decimal('{d.text}')"

def commaSeparated (parts : List String) : String := ", ".intercalate parts

/-- A tuple of one item keeps its comma. -/
def displaySequence : Sequence → List String → String
  | .list, items => "[" ++ commaSeparated items ++ "]"
  | .tuple, [item] => "(" ++ item ++ ",)"
  | .tuple, items => "(" ++ commaSeparated items ++ ")"

mutual

/-- The form a value has inside others. -/
def display : Value → Option String
  | .null => some "None"
  | .bool b => some (if b then "True" else "False")
  | .num n => displayNumber n
  | .str s => some (Text.quoted s)
  | .arr sequence items => do return displaySequence sequence (← displayItems items)
  | .obj entries => do return "\x7b" ++ commaSeparated (← displayEntries entries) ++ "\x7d"
  | .foreign _ text => text

def displayItems : List Value → Option (List String)
  | [] => some []
  | v :: rest => do return (← display v) :: (← displayItems rest)

def displayEntries : List (String × Value) → Option (List String)
  | [] => some []
  | (k, v) :: rest => do
    return (Text.quoted k ++ ": " ++ (← display v)) :: (← displayEntries rest)

end

/-- The form a value has on its own: a decimal or a text is not quoted. -/
def displayAlone : Value → Option String
  | .num (.decimal d) => some d.text
  | .str s => some s
  | v => display v

def typeName : Value → String
  | .null => "NoneType"
  | .bool _ => "bool"
  | .num (.int _) => "int"
  | .num (.float _) => "float"
  | .num (.decimal _) => "Decimal"
  | .str _ => "str"
  | .arr .list _ => "list"
  | .arr .tuple _ => "tuple"
  | .obj _ => "dict"
  | .foreign id _ => id.typeName

/-- With the name of the module that the type is from. -/
def fullTypeName : Value → String
  | .num (.decimal _) => "decimal.Decimal"
  | v => v.typeName

def render (v : Value) : String :=
  match Json.write v, displayAlone v with
  | .ok text, _ => text
  | .error _, some text => text
  | .error _, none => s!"<unrenderable {v.typeName}>"

end Conformance.Value
