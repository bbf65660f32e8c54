import Conformance.Value.Render
/-!
# Diagnostics

A failure is a tree: the operator that failed, the value it failed on, the failures
of the checks it is made of, and a label that says where in the parent's value this
one stands. A leaf is a node without children, with all labels on the way to it.
-/

namespace Conformance

/-- One step into a value. -/
inductive Label where
  | key (name : String)
  | index (position : Int)
deriving DecidableEq

inductive Diagnostic where
  | node (operator : String) (value : Value) (children : List Diagnostic) (label : Option Label)
deriving Inhabited

namespace Diagnostic

def operator : Diagnostic → String
  | node operator _ _ _ => operator

def value : Diagnostic → Value
  | node _ value _ _ => value

def children : Diagnostic → List Diagnostic
  | node _ _ children _ => children

def label : Diagnostic → Option Label
  | node _ _ _ label => label

/-- A failure that is made of no others. -/
def leaf (operator : String) (value : Value) : Diagnostic := node operator value [] none

/-- The same failure under another label, or under none. -/
def labelled (label : Option Label) : Diagnostic → Diagnostic
  | node operator value children _ => node operator value children label

def under (d : Diagnostic) (label : Label) : Diagnostic := d.labelled (some label)

/-- The object lacks the key. -/
def missing (object : Value) (key : String) : Diagnostic :=
  (leaf "missing" object).under (.key key)

/-- A failure with children, unless there are none. -/
def ofChildren (operator : String) (value : Value) : List Diagnostic → Option Diagnostic
  | [] => none
  | children => some (node operator value children none)

/-! ## Leaves -/

structure Leaf where
  path : List Label
  operator : String
  value : Value

mutual

/-- The leaves from left to right, their paths continuing `base`. -/
def leaves (base : List Label) : Diagnostic → List Leaf
  | node operator value [] label => [⟨base ++ label.toList, operator, value⟩]
  | node _ _ (d :: rest) label =>
    leaves (base ++ label.toList) d ++ leavesAll (base ++ label.toList) rest

def leavesAll (base : List Label) : List Diagnostic → List Leaf
  | [] => []
  | d :: rest => leaves base d ++ leavesAll base rest

end

/-! ## Text -/

def labelText : Option Label → String
  | none => ""
  | some (.key name) => name ++ ": "
  | some (.index position) => s!"[{position}]: "

def headText (operator : String) : List String → String
  | [] => operator
  | children => operator ++ "(" ++ ", ".intercalate children ++ ")"

mutual

def treeText : Diagnostic → String
  | node operator _ children label => labelText label ++ headText operator (treeTexts children)

def treeTexts : List Diagnostic → List String
  | [] => []
  | d :: rest => treeText d :: treeTexts rest

end

/-- The tree, and the value that was checked. -/
def text (d : Diagnostic) : String := s!"{d.treeText} given input {d.value.render}"

end Diagnostic

end Conformance
