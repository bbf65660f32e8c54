import Conformance.Validator.Resolve
/-!
# Frames

A deferred check opens a frame: its body is opened, a definition being compiled
then, and checked inside. Work inside a frame may be interrupted, by an error of the
schema or because the frames have run out; the outermost frame answers for the
latter.
-/

namespace Conformance

/-- Why a check inside a frame has no answer. -/
inductive Interrupt where
  | frames
  | schema (e : SchemaError)

/-- Work inside a frame, with the state that bodies are opened in. -/
abbrev Frame (σ α : Type) : Type := ExceptT Interrupt (StateM σ) α

/-- What a frame opens. -/
inductive Body where
  | ready (v : Validator)
  | node (scope : Scope) (target : Value)

namespace Frame

variable {σ α : Type}

def ofBuild (work : Build α) : Frame (List Mark) α := work.adapt .schema

/-- The outermost frame answers `fallback` when the frames run out. -/
def close (fallback : α) (work : Frame σ α) : ExceptT SchemaError (StateM σ) α := ExceptT.mk do
  match ← work.run with
  | .ok a => pure (.ok a)
  | .error .frames => pure (.ok fallback)
  | .error (.schema e) => pure (.error e)

end Frame

/-- The validator in a frame. -/
def Body.open : Body → Frame (List Mark) Validator
  | ready v => pure v
  | node scope target => Frame.ofBuild (scope.compile target)

end Conformance
