import Conformance.Schema.Error
/-!
# References

A reference is `#/definitions/` and the name of a definition, which is not empty
and holds no slash. In the name `~1` stands for a slash and `~0` for a tilde; any
other tilde stands for itself.
-/

namespace Conformance

namespace Pointer

/-- Puts the character in place of each tilde that has the digit after it. -/
def replaceEscape (digit c : Char) : List Char → List Char
  | [] => []
  | [c'] => [c']
  | c' :: d :: rest =>
    if c' = '~' ∧ d = digit then c :: replaceEscape digit c rest
    else c' :: replaceEscape digit c (d :: rest)

/-- First each `~1` is a slash, and then each `~0` a tilde. -/
def unescape (token : List Char) : List Char :=
  replaceEscape '0' '~' (replaceEscape '1' '/' token)

end Pointer

/-- A reference as it is written, and the name of the definition it points to. -/
structure Reference where
  text : String
  name : String
deriving DecidableEq

namespace Reference

def root : List Char := "#/definitions/".toList

/-- What stands behind the root, if it can be a name. -/
def encodedName? (ref : List Char) : Option (List Char) :=
  if root.isPrefixOf ref then
    let name := ref.drop root.length
    if name.isEmpty || name.contains '/' then none else some name
  else none

def ofText? (text : String) : Option Reference :=
  (encodedName? text.toList).map fun name => ⟨text, String.ofList (Pointer.unescape name)⟩

def ofValue : Value → Except SchemaError Reference
  | .str text =>
    match ofText? text with
    | some ref => pure ref
    | none => throw (.refMalformed text)
  | v => throw (.refNotText v)

end Reference

end Conformance
