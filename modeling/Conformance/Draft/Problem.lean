import Conformance.Document.Checker
import Conformance.Draft.Basic
import Conformance.Pattern.Reading
/-!
# Problems and findings

What is wrong with a document, and where. The message names the place, the value that
is found fault with, and the fault. A check can also break down, and then there is
nothing behind what it has found so far.
-/

namespace Conformance.Draft

/-- A type that a draft asks for, or a schema in its place. -/
inductive TypeName where
  | named (name : String)
  | node
deriving DecidableEq

def TypeName.text : TypeName → String
  | named name => Text.quoted name
  | node => "\x7b'$ref': '#'\x7d"

/-- What a name in a document may look like. -/
inductive Form where
  /-- No fragment, except for an empty one. -/
  | place
  | anchorOf2019
  | anchorOf2020
deriving DecidableEq

def Form.text : Form → String
  | place => "^[^#]*#?$"
  | anchorOf2019 => "^[A-Za-z][-A-Za-z0-9.:_]*$"
  | anchorOf2020 => "^[A-Za-z_][-A-Za-z0-9._]*$"

inductive Fault where
  | wrongType (names : List TypeName)
  | negative
  | notPositive
  | noAlternative
  | notDistinct
  | empty
  | notPattern
  | malformed (form : Form)
  /-- The name is missing beside another one. -/
  | neededBy (name : String)

/-- The value that is found fault with, and its place in the document. -/
structure Problem where
  path : List Label
  value : Value
  fault : Fault

def Fault.message : Fault → String
  | wrongType names => "is not of type " ++ ", ".intercalate (names.map TypeName.text)
  | negative => "is less than the minimum of 0"
  | notPositive => "is less than or equal to the minimum of 0"
  | noAlternative => "is not valid under any of the given schemas"
  | notDistinct => "has non-unique elements"
  | empty => "should be non-empty"
  | notPattern => "is not a 'regex'"
  | malformed form => "does not match " ++ Text.quoted form.text
  | neededBy name => "is a dependency of " ++ Text.quoted name

/-- The value that is found fault with is displayed; a whole number with too many digits
cannot be. -/
def Problem.complaint (p : Problem) : Complaint :=
  match p.value.display with
  | some shown => .invalid p.path s!"{shown} {p.fault.message}"
  | none => .broken "ValueError" Json.WriteError.tooManyDigits.message

def Problem.under (label : Label) (p : Problem) : Problem := { p with path := label :: p.path }

/-! ## Findings -/

/-- Why a check breaks down. -/
inductive Breakdown where
  | name (e : NameError)
  | pattern (o : Pattern.Overrun)
  /-- A decimal is compared, and it or the other one is not a number. -/
  | comparison

def Breakdown.message : Breakdown → String
  | name e => e.message
  | pattern o => o.message
  | comparison => "[<class 'decimal.InvalidOperation'>]"

def Breakdown.kind : Breakdown → String
  | name e => e.kind
  | pattern o => o.kind
  | comparison => "InvalidOperation"

def Breakdown.complaint (b : Breakdown) : Complaint := .broken b.kind b.message

/-- The first problem that a check finds, and the breakdown behind all problems that ends it
before it is complete. -/
structure Findings where
  problem : Option Problem
  breakdown : Option Breakdown

namespace Findings

def clean : Findings := ⟨none, none⟩

def broken (b : Breakdown) : Findings := ⟨none, some b⟩

/-- Finds fault with a value. -/
def fault (f : Fault) (v : Value) : Findings := ⟨some ⟨[], v, f⟩, none⟩

/-- One check behind the other. -/
def followedBy (a b : Findings) : Findings :=
  match a.breakdown with
  | some _ => a
  | none => ⟨a.problem <|> b.problem, b.breakdown⟩

def all (fs : List Findings) : Findings := fs.foldr followedBy clean

def under (label : Label) (f : Findings) : Findings :=
  { f with problem := f.problem.map (·.under label) }

/-- A complete check decides which of two findings follows, a broken one is all there is. -/
def judge (f : Findings) (whenClean whenNot : Findings) : Findings :=
  match f.breakdown, f.problem with
  | some b, _ => broken b
  | none, none => whenClean
  | none, some _ => whenNot

end Findings

end Conformance.Draft
