import Conformance.CommandLine.Options
import Conformance.Document.Checker
import Conformance.Document.Load
import Conformance.Document.Path
import Conformance.Json.Canonical
import Conformance.Validator.Check
/-!
# A run of the command

The stages are: load the schema, load the definitions, check the draft, compile,
load the input, check it. The first stage that fails ends the run with exit code 2
and one message; otherwise the exit code is 0 for an input that passes and 1 for one
that does not. A few failures stop the run without an exit code of its own: a file that
is no UTF-8, a path that leads nowhere or has too long a name in it, and a draft check
that goes wrong. A run that reads a surrogate alone is not followed any further.
-/

namespace Conformance.CommandLine

/-- Where the run takes place, what stands at every path, the checker of drafts, and how
many frames may be open inside each other. -/
structure World where
  place : Place
  entry : String → FileEntry
  checker : Checker
  limit : Nat

inductive Failure where
  | path (e : PathError)
  | load (e : LoadError)
  | draft (e : DraftError)
  | compile (e : SchemaError)
  | input (e : FileError)
  | canonical (e : Json.CanonicalError)

/-- What stops the run. -/
inductive Stop where
  | path (e : PathError)
  | nameTooLong (file : String)
  | undecodable (e : Text.Utf8Error)
  | checker (kind message : String)
  /-- The schema has an error that cannot be displayed. -/
  | undisplayed
  /-- A surrogate stands alone in a text. The run may go on, but this is left open here. -/
  | surrogate (file : String)

def Stop.message : Stop → String
  | path e => e.message
  | nameTooLong file => (LoadError.nameTooLong file).message
  | undecodable e => e.message
  | checker _ message => message
  | undisplayed => Json.WriteError.tooManyDigits.message
  | surrogate file => (LoadError.surrogate file).message

/-- The line that reports the failure, unless it stops the run. -/
def Failure.line : Failure → Except Stop String
  | path e => throw (.path e)
  | load (.nameTooLong file) => throw (.nameTooLong file)
  | load (.undecodable e) | input (.undecodable e) => throw (.undecodable e)
  | load (.surrogate file) | input (.surrogate file) => throw (.surrogate file)
  | draft (.complaint (.broken kind message)) => throw (.checker kind message)
  | load e => pure s!"ERR: schema load failure: {e.message}"
  | draft e => pure s!"ERR: schema load failure: {e.message}"
  | compile e =>
    match e.message? with
    | some message => pure s!"ERR: schema compilation failure: {message}"
    | none => throw .undisplayed
  | input e => pure s!"ERR: cannot read/parse JSON: {e.message}"
  | canonical e => pure s!"ERR: canonical hash failed: {e.message}"

/-- An exit code with the lines on standard output and standard error. -/
structure Report where
  exitCode : Nat
  output : List String
  errors : List String

inductive Outcome where
  | ended (e : Ending)
  | stopped (s : Stop)
  | reported (r : Report)

/-! ## Stages -/

/-- The paths that every run has. -/
structure Paths where
  schema : String
  input : String

def World.path (w : World) (path : String) : Except Failure String :=
  (Path.resolve w.place path).mapError .path

def World.paths (w : World) (o : Options) : Except Failure Paths := do
  let schema ← w.path o.schema
  let input ← w.path o.path
  pure ⟨schema, input⟩

structure Documents where
  schema : Value
  definitions : Value

def World.document (w : World) (role : Role) (path : String) : Except Failure Value :=
  (role.load path (w.entry path)).mapError .load

/-- An empty path names no definitions. -/
def World.documents (w : World) (o : Options) (paths : Paths) : Except Failure Documents := do
  let schema ← w.document .schema paths.schema
  let definitions ← match o.definitions.filter (· ≠ "") with
    | some path => w.document .definitions (← w.path path)
    | none => pure .null
  if o.checkSchema then (w.checker.check schema).mapError .draft
  pure ⟨schema, definitions⟩

/-- The value in the input file and its verdict. -/
def World.verdict (w : World) (path : String) (v : Validator) (marks : List Mark) :
    Except Failure Validator.Verdict := do
  let x ← ((w.entry path).value path).mapError .input
  ((v.check w.limit x).run marks).1.mapError .compile

/-! ## Log -/

def checkingLine (mark : Mark) : String :=
  "DEBUG:schema_matchers.lib.ref_resolver_v1:checking definition " ++ Text.quoted mark.name

def compiledLine (v : Validator) (d : Documents) : String :=
  let size := ((effectiveDefinitions d.schema d.definitions).getD []).length
  s!"DEBUG:schema_matchers.lib.schema_compiler_v1:compiled schema: validator={v.describe} " ++
    s!"definitions={size}"

/-! ## Reports -/

def placesLine (word : String) (paths : Paths) : String :=
  s!"{word}: schema={paths.schema} file={paths.input}"

/-- What is printed for a verdict: the hash of a value that passes, the failure of
one that does not. -/
def report (paths : Paths) (r : Validator.Verdict) : Except Failure Report :=
  match r.message? with
  | some message => pure ⟨1, [placesLine "FAIL" paths, message], []⟩
  | none => do
    let c ← (Json.canonical r.value).mapError .canonical
    pure ⟨0, [placesLine "OK" paths, s!"CANON_SHA256={c.sha256}"], []⟩

/-- The outcome of all stages, with the log before any message. -/
def conclude (log : List String) : Except Failure Report → Outcome
  | .ok r => .reported { r with errors := log ++ r.errors }
  | .error f =>
    match f.line with
    | .ok line => .reported ⟨2, [], log ++ [line]⟩
    | .error stop => .stopped stop

def World.runOptions (w : World) (o : Options) : Outcome :=
  let started := do
    let paths ← w.paths o
    let d ← w.documents o paths
    pure (paths, d)
  match started with
  | .error f => conclude [] (.error f)
  | .ok (paths, d) =>
    let (compiled, marks) := (compileDocument 0 d.schema d.definitions).run []
    let checking := marks.map checkingLine
    match compiled with
    | .error e => conclude (if o.verbose then checking else []) (.error (.compile e))
    | .ok v =>
      conclude (if o.verbose then checking ++ [compiledLine v d] else []) do
        let r ← w.verdict paths.input v marks
        report paths r

def World.run (w : World) (arguments : List String) : Outcome :=
  match Options.ofArguments arguments with
  | .error e => .ended e
  | .ok o => w.runOptions o

end Conformance.CommandLine
