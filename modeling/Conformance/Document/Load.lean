import Conformance.Document.File
/-!
# Loading documents

A schema document is an object or a list, a document of definitions is an object.
-/

namespace Conformance

/-- What a document is for. -/
inductive Role where
  | schema
  | definitions
deriving DecidableEq

def Role.code : Role → String
  | schema => "SCHEMA"
  | definitions => "DEFINITIONS"

/-- Whether a value can be the whole of the document. -/
def Role.admits : Role → Value → Bool
  | schema, .obj _ => true
  | schema, .arr .list _ => true
  | definitions, .obj _ => true
  | _, _ => false

def Role.rootCode : Role → String
  | schema => "SCHEMA_ROOT_NOT_OBJECT_OR_LIST"
  | definitions => "DEFINITIONS_ROOT_NOT_OBJECT"

inductive LoadError where
  | missing (role : Role) (path : String)
  | nameTooLong (path : String)
  | notFile (role : Role) (path : String)
  | undecodable (e : Text.Utf8Error)
  | surrogate (path : String)
  | notJson (role : Role) (e : FileError)
  | wrongRoot (role : Role) (path : String)

def LoadError.message : LoadError → String
  | missing role path => s!"{role.code}_FILE_MISSING: {path}"
  | nameTooLong path => systemMessage 36 "File name too long" path
  | notFile role path => s!"{role.code}_PATH_NOT_FILE: {path}"
  | undecodable e => e.message
  | surrogate path => (FileError.surrogate path).message
  | notJson role e => s!"{role.code}_JSON_INVALID: {e.message}"
  | wrongRoot role path => s!"{role.rootCode}: {path}"

/-- What a failure to read the file means for the document. -/
def LoadError.ofFileError (role : Role) : FileError → LoadError
  | .undecodable e => .undecodable e
  | .surrogate path => .surrogate path
  | e => .notJson role e

/-- The document at a path. -/
def Role.load (role : Role) (path : String) (entry : FileEntry) : Except LoadError Value :=
  match entry with
  | .missing | .blocked => throw (.missing role path)
  | .nameTooLong => throw (.nameTooLong path)
  | .directory => throw (.notFile role path)
  | .file bytes => do
    let v ← ((FileEntry.file bytes).value path).mapError (.ofFileError role)
    if role.admits v then pure v else throw (.wrongRoot role path)

end Conformance
