import Conformance.Pattern.Width
/-!
# Groups

The groups of a pattern are numbered as they open, the whole pattern being number
zero. A group may be referred to once it is closed, and inside of a look-behind only if
it was there before that began.
-/

namespace Conformance.Pattern

structure Groups where
  /-- By number; a group that is open has none. -/
  widths : List (Option Width)
  names : List (List Char × Nat)
  /-- The highest number that a condition asks for. -/
  asked : Nat
  /-- How many groups there were when the outermost look-behind began. -/
  behind : Option Nat

namespace Groups

def initial : Groups := ⟨[none], [], 0, none⟩

def count (g : Groups) : Nat := g.widths.length

/-- The width of a group that may be referred to. -/
def width? (g : Groups) (n : Nat) : Option Width :=
  if g.behind.all (n < ·) then g.widths[n]?.join else none

/-- No two groups share a name. -/
def open? (g : Groups) (name : Option (List Char)) : Option Groups :=
  let opened := { g with widths := g.widths ++ [none] }
  match name with
  | none => some opened
  | some name =>
    if (g.names.lookup name).isSome then none
    else some { opened with names := (name, g.count) :: g.names }

def close (g : Groups) (n : Nat) (w : Width) : Groups :=
  { g with widths := g.widths.set n (some w) }

/-- A condition may ask for a group that comes later, but not from a look-behind. -/
def ask? (g : Groups) (n : Nat) : Option Groups :=
  if g.behind.isNone || (g.width? n).isSome then some { g with asked := max n g.asked } else none

def enterBehind (g : Groups) : Groups := { g with behind := g.behind <|> some g.count }

end Groups

end Conformance.Pattern
