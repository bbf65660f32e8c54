import Conformance.CommandLine.Run
import Conformance.Draft.Check
/-!
# The command

Reads the files that the arguments name and prints what the run reports. The command is
run with the checker of drafts and with a number of frames that its stack has room for.
-/

namespace Conformance

def usage : String :=
  "usage: conformance --schema SCHEMA --path PATH [--definitions DEFINITIONS] " ++
    "[--check-schema] [--verbose] [-h]"

/-- What stands at a path; a path that leads through a file is blocked. -/
def entryAt (path : String) : IO FileEntry := do
  try
    let bytes ← IO.FS.readBinFile path
    pure (.file bytes.toList)
  catch
    | .noFileOrDirectory .. => pure .missing
    | .invalidArgument .. => pure .nameTooLong
    | .inappropriateType _ code _ => pure (if code = 21 then .directory else .blocked)
    | _ => pure .blocked

/-- The files of a run, as far as its paths lead anywhere. -/
def filesOf (place : Place) (o : CommandLine.Options) : IO (List (String × FileEntry)) := do
  let paths := (o.schema :: o.path :: o.definitions.toList).filterMap fun path =>
    (Path.resolve place path).toOption
  paths.mapM fun path => do pure (path, ← entryAt path)

/-- The homes of the users, if they are listed where they usually are. -/
def homes : IO (List (List Char × List Char)) := do
  try
    let lines ← IO.FS.lines "/etc/passwd"
    pure (lines.toList.filterMap fun line => Path.userHome? line.toList)
  catch _ => pure []

/-- More frames than any check of a value of moderate depth opens. -/
def frameLimit : Nat := 250

def printLines (stream : IO.FS.Stream) (lines : List String) : IO Unit :=
  lines.forM fun line => stream.putStr (line ++ "\n")

def conclude : CommandLine.Outcome → IO UInt32
  | .ended e => do
    printLines (← if e = .help then IO.getStdout else IO.getStderr) [usage]
    pure (UInt32.ofNat e.exitCode)
  | .stopped stop => do
    printLines (← IO.getStderr) [stop.message]
    pure 1
  | .reported r => do
    printLines (← IO.getStdout) r.output
    printLines (← IO.getStderr) r.errors
    pure (UInt32.ofNat r.exitCode)

end Conformance

open Conformance in
def main (arguments : List String) : IO UInt32 := do
  let directory := (← IO.currentDir).toString
  let home := (← IO.getEnv "HOME").getD "/"
  let place : Place := ⟨directory.toList, home.toList, ← homes⟩
  let files ← match CommandLine.Options.ofArguments arguments with
    | .ok o => filesOf place o
    | .error _ => pure []
  let world : CommandLine.World :=
    { place, entry := fun path => (files.lookup path).getD .missing
      checker := Draft.checker, limit := frameLimit }
  conclude (world.run arguments)
