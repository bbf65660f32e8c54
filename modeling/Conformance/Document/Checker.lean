import Conformance.Diagnostic
/-!
# Checking a schema against its draft

Whether a schema is valid for the draft that it names is for a checker to say, which
is handed over from outside. Only an object is put before it. For a schema that it
finds invalid it gives the place and the message; a check that goes wrong in any other
way is no answer, and its error is passed on.
-/

namespace Conformance

/-- What a checker says against a schema. -/
inductive Complaint where
  | invalid (place : List Label) (message : String)
  /-- The check went wrong, with an error of another kind. -/
  | broken (kind message : String)

abbrev Checker : Type := List (String × Value) → Except Complaint Unit

inductive DraftError where
  | notObject
  | complaint (c : Complaint)

def labelText : Label → String
  | .key name => name
  | .index position => toString position

/-- The schema itself has no place in it, and neither has what stands under the empty name. -/
def placeText (place : List Label) : String :=
  let text := "/".intercalate (place.map labelText)
  if text.isEmpty then "<root>" else text

def DraftError.message : DraftError → String
  | notObject => "SCHEMA_DRAFT_CHECK_REQUIRES_OBJECT"
  | complaint (.invalid place message) => s!"SCHEMA_INVALID_DRAFT: {placeText place}: {message}"
  | complaint (.broken _ message) => message

/-- Only an object can be checked. -/
def Checker.check (checker : Checker) : Value → Except DraftError Unit
  | .obj entries => (checker entries).mapError .complaint
  | _ => throw .notObject

end Conformance
