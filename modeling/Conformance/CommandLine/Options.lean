import Conformance.Text.DecimalDigit
/-!
# Options

A word that begins with a dash is a switch: a long one may be cut short as long as
one switch remains, and may carry its value behind an equals sign. A word is plain,
and may be a value, when it has no dash in front, is a lone dash or a negative
number, or names no switch and holds a space; behind a lone double dash every word
is plain. Words are classified first and then read from left to right, so asking for
help counts only when nothing before it is wrong.
-/

namespace Conformance.CommandLine

inductive Switch where
  | help
  | schema
  | path
  | definitions
  | checkSchema
  | verbose
deriving DecidableEq

namespace Switch

def all : List Switch := [help, schema, path, definitions, checkSchema, verbose]

def longName : Switch → List Char
  | help => "--help".toList
  | schema => "--schema".toList
  | path => "--path".toList
  | definitions => "--definitions".toList
  | checkSchema => "--check-schema".toList
  | verbose => "--verbose".toList

def takesValue : Switch → Bool
  | schema | path | definitions => true
  | help | checkSchema | verbose => false

end Switch

/-- How the run ends without checking anything. -/
inductive Ending where
  | help
  | badUsage
  /-- The schema or the input is given without a path. -/
  | noPath
deriving DecidableEq

def Ending.exitCode : Ending → Nat
  | help => 0
  | badUsage => 2
  | noPath => 1

structure Options where
  schema : String
  path : String
  definitions : Option String
  checkSchema : Bool
  verbose : Bool

/-! ## Words -/

inductive Word where
  | plain (text : List Char)
  | separator
  | long (switch : Switch) (attached : Option (List Char))
  /-- A `-h` and what is attached to it. -/
  | short (attached : List Char)
  | unknown

/-- A name and what stands behind its first equals sign. -/
def splitAttached (cs : List Char) : List Char × Option (List Char) :=
  match cs.span (· != '=') with
  | (name, '=' :: value) => (name, some value)
  | (name, _) => (name, none)

/-- Decimal digits, perhaps with a point among or before them, behind a dash. -/
def isNegativeNumber : List Char → Bool
  | '-' :: digits =>
    match digits.span Text.isDecimalDigit with
    | (whole, []) => !whole.isEmpty
    | (_, '.' :: places) => !places.isEmpty && places.all Text.isDecimalDigit
    | _ => false
  | _ => false

/-- One line break at the end of a word does not count. -/
def withoutBreak (cs : List Char) : List Char :=
  if cs.getLast? = some '\n' then cs.dropLast else cs

/-- A word with a dash in front that names no switch. -/
def otherWord (cs : List Char) : Word :=
  if isNegativeNumber (withoutBreak cs) || cs.contains ' ' then .plain cs else .unknown

def classifyLong (cs : List Char) : Except Ending Word :=
  match Switch.all.find? (·.longName = cs) with
  | some s => pure (.long s none)
  | none =>
    let (name, attached) := splitAttached cs
    match Switch.all.find? (·.longName = name) with
    | some s => pure (.long s attached)
    | none =>
      match Switch.all.filter (name.isPrefixOf ·.longName) with
      | [] => pure (otherWord cs)
      | [s] => pure (.long s attached)
      | _ => throw .badUsage

def classify (cs : List Char) : Except Ending Word :=
  match cs with
  | '-' :: '-' :: [] => pure .separator
  | '-' :: '-' :: _ => classifyLong cs
  | '-' :: 'h' :: attached => pure (.short attached)
  | '-' :: _ :: _ => pure (otherWord cs)
  | _ => pure (.plain cs)

/-- Behind a separator every word is plain. -/
def classifyAll : List (List Char) → Except Ending (List Word)
  | [] => pure []
  | cs :: rest => do
    match ← classify cs with
    | .separator => pure (.separator :: rest.map .plain)
    | word => do pure (word :: (← classifyAll rest))

/-! ## Reading -/

/-- A value as it is given: an attached double dash is given, but stands for nothing. -/
abbrev Argument := Option (List Char)

def Argument.ofAttached (cs : List Char) : Argument := if cs = "--".toList then none else some cs

/-- What the words read so far have given. -/
structure Given where
  schema : Option Argument
  path : Option Argument
  definitions : Option Argument
  checkSchema : Bool
  verbose : Bool
  /-- A word was met that belongs to no switch. -/
  stray : Bool

def Given.empty : Given := ⟨none, none, none, false, false, false⟩

/-- The last value of a switch counts. -/
def Given.setValue (d : Given) (value : Argument) : Switch → Given
  | .schema => { d with schema := some value }
  | .path => { d with path := some value }
  | .definitions => { d with definitions := some value }
  | _ => d

def Given.setFlag (d : Given) : Switch → Given
  | .checkSchema => { d with checkSchema := true }
  | .verbose => { d with verbose := true }
  | _ => d

/-- Help is asked for by one letter or more of them, the first perhaps set off by an
equals sign. -/
def shortEnding (attached : List Char) : Ending :=
  let letters := match attached with
    | ['='] => attached
    | '=' :: letters => letters
    | letters => letters
  if letters.all (· == 'h') then .help else .badUsage

def readWords (d : Given) : List Word → Except Ending Given
  | [] => pure d
  | .long s (some value) :: rest =>
    if s.takesValue then readWords (d.setValue (.ofAttached value) s) rest else throw .badUsage
  | .long s none :: rest =>
    if s.takesValue then
      match rest with
      | .plain value :: rest => readWords (d.setValue (some value) s) rest
      | _ => throw .badUsage
    else if s = .help then throw .help
    else readWords (d.setFlag s) rest
  | .short attached :: _ => throw (shortEnding attached)
  | .plain _ :: rest | .separator :: rest | .unknown :: rest => readWords { d with stray := true } rest

def Given.finish (d : Given) : Except Ending Options :=
  match d.schema, d.path with
  | some schema, some path =>
    if d.stray then throw .badUsage
    else match schema, path with
      | some schema, some path => pure
          { schema := String.ofList schema, path := String.ofList path
            definitions := d.definitions.join.map String.ofList
            checkSchema := d.checkSchema, verbose := d.verbose }
      | _, _ => throw .noPath
  | _, _ => throw .badUsage

def Options.ofArguments (arguments : List String) : Except Ending Options := do
  let words ← classifyAll (arguments.map String.toList)
  let d ← readWords .empty words
  d.finish

end Conformance.CommandLine
