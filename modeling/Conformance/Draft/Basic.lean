import Conformance.Draft.Host
import Conformance.Value.Render
/-!
# Drafts

The drafts of JSON Schema that a document can be checked against. A document names
its draft by the place of the draft's own schema, in any spelling that stands for the
same place: with blanks in front, breaks inside, capitals in the scheme, or an empty
query or fragment at the end.
-/

namespace Conformance

inductive Draft where
  | three
  | four
  | six
  | seven
  | of2019
  | of2020
deriving DecidableEq

namespace Draft

def all : List Draft := [three, four, six, seven, of2019, of2020]

def name : Draft → String
  | three => "http://json-schema.org/draft-03/schema"
  | four => "http://json-schema.org/draft-04/schema"
  | six => "http://json-schema.org/draft-06/schema"
  | seven => "http://json-schema.org/draft-07/schema"
  | of2019 => "https://json-schema.org/draft/2019-09/schema"
  | of2020 => "https://json-schema.org/draft/2020-12/schema"

/-! ## Spellings -/

def lowerScheme (cs : List Char) : List Char :=
  match cs.span (· != ':') with
  | (scheme, rest) => scheme.map Char.toLower ++ rest

/-- Drops the last character if it is `c`. -/
def dropLast (c : Char) (cs : List Char) : List Char :=
  if cs.getLast? = some c then cs.dropLast else cs

/-- Four slashes name no host, and two of them can be left out. -/
def dropEmptyHost (cs : List Char) : List Char :=
  match cs.span (· != ':') with
  | (scheme, ':' :: '/' :: '/' :: '/' :: '/' :: rest) => scheme ++ ':' :: '/' :: '/' :: rest
  | _ => cs

/-- Blanks in front are left out, and breaks. -/
def solid (s : String) : List Char :=
  (s.toList.dropWhile (·.toNat ≤ 0x20)).filter (!"\t\n\r".toList.contains ·)

def spelling (s : String) : List Char :=
  dropEmptyHost (dropLast '?' (dropLast '#' (lowerScheme (solid s))))

/-! ## Names -/

inductive NameError where
  /-- Nothing can be looked up by a list or an object. -/
  | compound (typeName : String)
  | notText (typeName : String)
  | host (e : HostError)

def NameError.message : NameError → String
  | compound typeName => s!"unhashable type: '{typeName}'"
  | notText typeName => s!"'{typeName}' object has no attribute 'decode'"
  | host e => e.message

def NameError.kind : NameError → String
  | compound _ => "TypeError"
  | notText _ => "AttributeError"
  | host _ => "ValueError"

/-- What is behind a scheme, if there is one. -/
def withoutScheme (cs : List Char) : List Char :=
  match cutAt ':' cs with
  | (c :: scheme, some rest) =>
    if c.isAlpha && scheme.all fun d => d.isAlphanum || "+-.".toList.contains d then rest else cs
  | _ => cs

/-- The host stands behind two slashes. -/
def hostIn (cs : List Char) : List Char :=
  match withoutScheme cs with
  | '/' :: '/' :: rest => rest.takeWhile (!"/?#".toList.contains ·)
  | _ => []

/-- The draft that a text names, or draft 7. -/
def ofText (s : String) : Except NameError Draft := do
  (checkHost (hostIn (solid s))).mapError .host
  pure ((all.find? fun d => d.name.toList = spelling s).getD seven)

mutual

/-- The type of the first part that nothing can be looked up by. -/
def compoundType? : Value → Option String
  | .arr .tuple vs => firstCompoundType? vs
  | .arr .list vs => some (Value.list vs).typeName
  | .obj entries => some (Value.obj entries).typeName
  | .null | .bool _ | .num _ | .str _ | .foreign .. => none

def firstCompoundType? : List Value → Option String
  | [] => none
  | v :: rest => compoundType? v <|> firstCompoundType? rest

end

/-- What counts as no name. -/
def isNothing : Value → Bool
  | .null | .bool false | .arr .tuple [] => true
  | .num n => n.isZero
  | _ => false

/-- The draft that a value names, or draft 7. -/
def ofValue : Value → Except NameError Draft
  | .str s => ofText s
  | v =>
    match compoundType? v with
    | some typeName => throw (.compound typeName)
    | none => if isNothing v then pure seven else throw (.notText v.fullTypeName)

/-! ## What the drafts differ in -/

/-- In the early drafts a schema cannot be a boolean. -/
def nodeTypes : Draft → List String
  | three | four => ["object"]
  | six | seven | of2019 | of2020 => ["object", "boolean"]

/-- In the later drafts a double without places is a whole number too. -/
def hasWholeDoubles : Draft → Bool
  | three | four => false
  | six | seven | of2019 | of2020 => true

end Draft

end Conformance
