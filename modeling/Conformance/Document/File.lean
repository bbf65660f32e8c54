import Conformance.Json.Reader
import Conformance.Text.Quoted
import Conformance.Text.Utf8
/-!
# JSON files

What stands at a path, and the value in it. A file is read as UTF-8 text with
unified line ends and then as JSON. A file that is no UTF-8 is a failure of its
own, apart from one that cannot be read and one that is no JSON. So is one whose
text escapes a surrogate alone, which is left open here: nothing is said of its value.
-/

namespace Conformance

/-- What stands at a path; `blocked` is a path that leads through a file, and `nameTooLong`
one with a name that no file can have. -/
inductive FileEntry where
  | missing
  | blocked
  | nameTooLong
  | directory
  | file (bytes : List UInt8)

inductive FileError where
  | unreadable (path : String) (number : Nat) (reason : String)
  | undecodable (e : Text.Utf8Error)
  | notJson (path : String) (e : Json.ReadError)
  | surrogate (path : String)

/-- What the system says. -/
def systemMessage (number : Nat) (reason path : String) : String :=
  s!"[Errno {number}] {reason}: {Text.quoted path}"

namespace FileError

def message : FileError → String
  | unreadable path number reason =>
    s!"Failed to read JSON file {path}: {systemMessage number reason path}"
  | undecodable e => e.message
  | notJson path e => s!"Failed to parse JSON in {path}: {e.message}"
  | surrogate path => s!"{Json.ReadError.surrogate.message}: {path}"

def ofReadError (path : String) : Json.ReadError → FileError
  | .surrogate => .surrogate path
  | e => .notJson path e

end FileError

namespace FileEntry

def text (path : String) : FileEntry → Except FileError (List Char)
  | missing => throw (.unreadable path 2 "No such file or directory")
  | blocked => throw (.unreadable path 20 "Not a directory")
  | nameTooLong => throw (.unreadable path 36 "File name too long")
  | directory => throw (.unreadable path 21 "Is a directory")
  | file bytes => do
    let cs ← (Text.decodeUtf8 bytes).mapError .undecodable
    pure (Text.unifyLines cs)

/-- The JSON value in the file. -/
def value (path : String) (entry : FileEntry) : Except FileError Value := do
  let cs ← entry.text path
  (Json.readChars cs).mapError (.ofReadError path)

end FileEntry

end Conformance
