import Conformance.Value.Basic
/-!
# Schemas

A schema is what a schema document means, before its references are resolved and
its type names are looked up: a conjunction of constraints, one for each keyword
that the document uses. `Schema.ofValue` reads it off a value. A list of nodes is a
conjunction and any value but a list or an object allows everything. A keyword
whose value has the wrong form counts as absent, except for `$ref` and `type`,
which keep any value, and `items`, which takes any node.
-/

namespace Conformance

inductive Schema where
  | anything
  | all (parts : List Schema)
  | choice (branches : List Schema)
  | reference (ref : Value)
  | type (spec : Value)
  | required (keys : List String)
  | properties (required : List String) (fields : List (String × Schema))
  | items (element : Schema)
  | positions (elements : List Schema)
  | enum (values : List Value)

/-- The families of keywords, each read on its own; `anyOf` and `oneOf` are one
family, and `oneOf` does not ask for a single branch. -/
inductive Keyword where
  | ref
  | type
  | required
  | properties
  | items
  | enum
  | anyOf
  | allOf
deriving DecidableEq

/-- The order in which a node's constraints are checked and reported. -/
def Keyword.all : List Keyword :=
  [ref, type, required, properties, items, enum, anyOf, allOf]

namespace Schema

/-! ## Reading a node -/

/-- What a value says in each place a schema can hold it: as a node, as a list of
nodes, and as named nodes. -/
structure Reading where
  node : Schema
  elements : Option (List Schema)
  fields : Option (List (String × Schema))

/-- The texts in a list. -/
def keyNames : Option Value → List String
  | some (.arr _ vs) => vs.filterMap fun
    | .str key => some key
    | _ => none
  | _ => []

/-- A node's constraint for one keyword, from the node's entries and from what each
of them says as a schema. -/
def part (k : Keyword) (entries : List (String × Value)) (readings : List (String × Reading)) :
    Schema :=
  let elements key := (readings.lookup key).bind (·.elements)
  match k with
  | .ref => (entries.lookup "$ref").elim anything reference
  | .type => (entries.lookup "type").elim anything type
  | .required => required (keyNames (entries.lookup "required"))
  | .properties =>
    ((readings.lookup "properties").bind (·.fields)).elim anything
      (properties (keyNames (entries.lookup "required")))
  | .items =>
    match readings.lookup "items" with
    | none => anything
    | some reading => reading.elements.elim (items reading.node) positions
  | .enum =>
    match entries.lookup "enum" with
    | some (.arr _ values) => enum values
    | _ => anything
  | .anyOf => all [(elements "anyOf").elim anything choice, (elements "oneOf").elim anything choice]
  | .allOf => (elements "allOf").elim anything all

mutual

def read : Value → Reading
  | .arr _ vs =>
    let elements := (readItems vs).map (·.node)
    ⟨all elements, some elements, none⟩
  | .obj entries =>
    let readings := readEntries entries
    ⟨all (Keyword.all.map fun k => part k entries readings), none,
      some (readings.map fun (k, r) => (k, r.node))⟩
  | .null | .bool _ | .num _ | .str _ | .foreign .. => ⟨anything, none, none⟩

def readItems : List Value → List Reading
  | [] => []
  | v :: rest => read v :: readItems rest

def readEntries : List (String × Value) → List (String × Reading)
  | [] => []
  | (k, v) :: rest => (k, read v) :: readEntries rest

end

/-- The schema a value is. -/
def ofValue (v : Value) : Schema := (read v).node

/-- The constraint that one keyword puts into the schema a value is. -/
def ofKeyword (k : Keyword) : Value → Schema
  | .obj entries => part k entries (readEntries entries)
  | _ => anything

theorem lookup_readEntries (key : String) (entries : List (String × Value)) :
    (readEntries entries).lookup key = (entries.lookup key).map read := by
  induction entries with
  | nil => rfl
  | cons e rest ih =>
    obtain ⟨k, v⟩ := e
    rw [readEntries, Entries.lookup_cons, Entries.lookup_cons, ih]
    split <;> rfl

end Schema

end Conformance
