import Conformance.Schema.Definitions
import Conformance.Schema.Reference
import Conformance.Validator.Compile
/-!
# Resolving references

A reference compiles to a validator that compiles the definition again when a value
arrives, so references may form cycles. The first time a definition is referred to
it is marked and then compiled at once, only to see that it compiles: its mark is
there before its own references are met and stays when compiling it fails. Each of
these checks marks a definition of the scope, so at most as many are nested as the
scope has definitions, which is the fuel.
-/

namespace Conformance

namespace Scope

/-- The node a reference stands for. -/
def find (scope : Scope) (ref : Reference) : Except SchemaError Value :=
  match scope.definitions with
  | none => throw (.noDefinitions ref.text)
  | some definitions =>
    match definitions.lookup ref.name with
    | some target => pure target
    | none => throw (.notDefined ref.text ref.name definitions)

/-- Runs `check` on a definition unless it is marked, and marks it first. -/
def checkOnce (scope : Scope) (name : String) (target : Value) (check : Value → Build Unit) :
    Build Unit := do
  let marks ← get
  if ⟨scope.id, name⟩ ∈ marks then pure ()
  else do
    set (marks ++ [⟨scope.id, name⟩])
    check target

def resolveWith (scope : Scope) (check : Value → Build Unit) (ref : Value) : Build Validator := do
  let ref ← Build.ofExcept (Reference.ofValue ref)
  let target ← Build.ofExcept (scope.find ref)
  scope.checkOnce ref.name target check
  pure (.reference scope ref.name target)

/-- Resolves references with at most `fuel` checks inside each other. -/
def resolveWithin (scope : Scope) : Nat → Value → Build Validator
  | 0 => scope.resolveWith fun _ => pure ()
  | fuel + 1 => scope.resolveWith fun target => do
    let _ ← (Schema.ofValue target).compileWith (scope.resolveWithin fuel)
    pure ()

def size (scope : Scope) : Nat := (scope.definitions.getD []).length

/-- The validator a reference stands for. -/
def resolve (scope : Scope) (ref : Value) : Build Validator := scope.resolveWithin scope.size ref

def compileSchema (scope : Scope) (s : Schema) : Build Validator := s.compileWith scope.resolve

/-- The validator a node compiles to. -/
def compile (scope : Scope) (node : Value) : Build Validator :=
  scope.compileSchema (Schema.ofValue node)

end Scope

/-- Compiles a document in a new scope. -/
def compileDocument (id : Nat) (document definitions : Value) : Build Validator :=
  Scope.compile ⟨id, effectiveDefinitions document definitions⟩ document

end Conformance
