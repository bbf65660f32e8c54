import Conformance.Digest.Sha256
import Conformance.Json.Writer
import Conformance.Text.Utf8
/-!
# Canonical JSON

Every object's entries in the order of their keys, compared character by character,
and then compact JSON: one text for all values that differ in the order of keys
alone. What is hashed is its UTF-8.
-/

namespace Conformance

namespace Entries

variable {α : Type}

/-- Puts an entry before the first one whose key is not less. -/
def insertSorted (key : String) (value : α) : List (String × α) → List (String × α)
  | [] => [(key, value)]
  | (k, v) :: rest =>
    if k < key then (k, v) :: insertSorted key value rest else (key, value) :: (k, v) :: rest

end Entries

mutual

def Value.sortKeys : Value → Value
  | .arr sequence items => .arr sequence (sortItems items)
  | .obj entries => .obj (sortEntries entries)
  | .null => .null
  | .bool b => .bool b
  | .num n => .num n
  | .str s => .str s
  | .foreign id text => .foreign id text

def Value.sortItems : List Value → List Value
  | [] => []
  | v :: rest => Value.sortKeys v :: Value.sortItems rest

def Value.sortEntries : List (String × Value) → List (String × Value)
  | [] => []
  | (k, v) :: rest => Entries.insertSorted k (Value.sortKeys v) (Value.sortEntries rest)

end

namespace Json

inductive CanonicalError where
  | notWritten (why : WriteError)
deriving DecidableEq

def CanonicalError.message : CanonicalError → String
  | notWritten why => s!"Canonicalization failed: {why.message}"

/-- Canonical JSON with what is hashed and the hash. -/
structure Canonical where
  text : String
  bytes : List UInt8
  sha256 : String

def canonicalText (v : Value) : Except CanonicalError String :=
  (write v.sortKeys).mapError .notWritten

def canonical (v : Value) : Except CanonicalError Canonical := do
  let text ← canonicalText v
  let bytes := Text.encodeUtf8 text.toList
  pure ⟨text, bytes, Sha256.hex bytes⟩

end Json

end Conformance
