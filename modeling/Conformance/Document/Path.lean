/-!
# Paths

A path is its names from the root on; the first one names the root and is empty on
most systems. Resolving is done on the names alone. A tilde at the front of a relative
path stands for the home of the user named behind it, or for one's own.
-/

namespace Conformance

/-- Where relative paths start, one's own home, and those of the users by name. -/
structure Place where
  directory : List Char
  home : List Char
  homes : List (List Char × List Char)

inductive PathError where
  /-- There is no user of that name. -/
  | noHome
  | nullCharacter
deriving DecidableEq

def PathError.message : PathError → String
  | noHome => "Could not determine home directory."
  | nullCharacter => "embedded null byte"

namespace Path

/-- Splits at every slash. -/
def split : List Char → List (List Char)
  | [] => [[]]
  | c :: rest =>
    if c = '/' then [] :: split rest
    else match split rest with
      | [] => [[c]]
      | name :: names => (c :: name) :: names

def join (names : List (List Char)) : List Char := ['/'].intercalate names

/-- One step from the place that `names` lead to, the last of them first. Nothing
lies above the root. -/
def step (names : List (List Char)) (name : List Char) : List (List Char) :=
  if name = [] ∨ name = ['.'] then names
  else if name = ['.', '.'] then
    match names with
    | _ :: parent :: rest => parent :: rest
    | _ => names
  else name :: names

/-- The names that count. -/
def properNames (path : List Char) : List (List Char) :=
  (split path).filter fun name => name ≠ [] && name ≠ ['.']

def expandHome (place : Place) (path : List Char) : Except PathError (List Char) := do
  if path.head? = some '/' then return path
  match properNames path with
  | ['~'] :: rest => pure (join (place.home :: rest))
  | ('~' :: user) :: rest =>
    if user.contains '\x00' then throw .nullCharacter
    match place.homes.lookup user with
    | some home => pure (join (home :: rest))
    | none => throw .noHome
  | _ => pure path

/-- The names of the directory, the last of them first. -/
def start (place : Place) : List (List Char) :=
  match split place.directory with
  | root :: rest => rest.foldl step [root]
  | [] => [[]]

/-- The names of the place a path leads to. -/
def names (place : Place) (path : List Char) : List (List Char) :=
  let start := match path with
    | '/' :: _ => [[]]
    | _ => start place
  ((split path).foldl step start).reverse

/-- The whole path to the place that `path` leads to. -/
def resolve (place : Place) (path : String) : Except PathError String := do
  let path ← expandHome place path.toList
  if path.contains '\x00' then throw .nullCharacter
  match names place path with
  | [[]] => pure "/"
  | names => pure (String.ofList (join names))

/-! ## Users -/

/-- The name and the home in a line of the list of users: the first and the sixth of the parts
between colons. -/
def userHome? (line : List Char) : Option (List Char × List Char) :=
  match line.splitOn ':' with
  | name :: _ :: _ :: _ :: _ :: home :: _ => some (name, home)
  | _ => none

end Path

end Conformance
