import Conformance.Schema.Basic
import Conformance.Value.Render
/-!
# Keywords on their own

One keyword can be read by itself. A node that is not an object has no keywords, but some
nodes are faulty all the same: those that nothing can be looked up in, and the lists and
texts in which the keyword is found where it names nothing.
-/

namespace Conformance

inductive NodeFault where
  /-- There is nothing to look the keyword up in, -/
  | notKeyed (typeName : String)
  /-- or not even to look for it in. -/
  | notSearchable (typeName : String)
  /-- The keyword is an item of a sequence, which has only positions, -/
  | item (typeName : String)
  /-- or a part of a text. -/
  | textPart
deriving DecidableEq

def NodeFault.message : NodeFault → String
  | notKeyed typeName => s!"'{typeName}' object has no attribute 'get'"
  | notSearchable typeName => s!"argument of type '{typeName}' is not iterable"
  | item typeName => s!"{typeName} indices must be integers or slices, not str"
  | textPart => "string indices must be integers, not 'str'"

/-- The word of a keyword that is looked for before it is looked up. -/
def Keyword.soughtWord? : Keyword → Option String
  | ref => some "$ref"
  | type => some "type"
  | items => some "items"
  | required | properties | enum | anyOf | allOf => none

/-- Whether a text has the word in it. -/
def hasWord (word : List Char) : List Char → Bool
  | [] => word.isEmpty
  | c :: rest => word.isPrefixOf (c :: rest) || hasWord word rest

def isText (word : String) : Value → Bool
  | .str s => s == word
  | _ => false

def NodeFault.find? (k : Keyword) : Value → Option NodeFault
  | .obj _ => none
  | v =>
    match k.soughtWord?, v with
    | none, v => some (.notKeyed v.fullTypeName)
    | some word, .arr sequence vs =>
      if vs.any (isText word) then some (.item (Value.arr sequence vs).typeName) else none
    | some word, .str s => if hasWord word.toList s.toList then some .textPart else none
    | some _, v => some (.notSearchable v.fullTypeName)

/-- The constraint of one keyword in a node. -/
def Schema.readKeyword (k : Keyword) (node : Value) : Except NodeFault Schema :=
  match NodeFault.find? k node with
  | some fault => throw fault
  | none => pure (ofKeyword k node)

end Conformance
