import Conformance.Schema.Error
/-!
# Definitions

The table that the references of a document are looked up in: the document's own
definitions, in their order, with the caller's laid over them.
-/

namespace Conformance

/-- The table of a document; `none` when neither side is an object. -/
def effectiveDefinitions (document definitions : Value) : Option Definitions :=
  let own := match document with
    | .obj entries => entries.lookup "definitions"
    | _ => none
  match own, definitions with
  | some (.obj base), .obj overrides => some (Entries.merge base overrides)
  | _, .obj overrides => some (Entries.merge [] overrides)
  | some (.obj base), _ => some base
  | _, _ => none

end Conformance
