import Conformance.Number.DigitLimit
import Conformance.Pattern.Members
import Conformance.Text.DecimalDigit
import Conformance.Text.Identifier
/-!
# Reading a pattern

Of what has been read of a pattern only so much is kept as later parts depend on: of an
item its kind and its width, and for the whole pattern its groups, its flags, and what
will make it unfit when it is put together at the end.
-/

namespace Conformance.Pattern

/-! ## Items -/

inductive Kind where
  | atom
  /-- A position cannot be repeated, -/
  | position
  /-- and a repetition cannot be repeated once more. -/
  | repetition
deriving DecidableEq

structure Item where
  kind : Kind
  width : Width

def Item.single : Item := ⟨.atom, .one⟩

def Item.repeated (i : Item) (low : Nat) (high : Option Nat) : Option Item :=
  if i.kind = .atom then some ⟨.repetition, i.width.repeated low high⟩ else none

/-! ## Reading -/

/-- A limit that a pattern oversteps, so that nothing is said about its form. -/
inductive Overrun where
  /-- Something is repeated too often, -/
  | count
  /-- or a count has too many digits. -/
  | digits (number : Nat)
  /-- Characters are taken for ASCII and for Unicode. -/
  | alphabets
  /-- It looks too far behind. -/
  | lookBehind
deriving DecidableEq

def Overrun.message : Overrun → String
  | count => "the repetition number is too large"
  | digits number => Number.tooManyDigits number
  | alphabets => "ASCII and UNICODE flags are incompatible"
  | lookBehind => "invalid SRE code"

def Overrun.kind : Overrun → String
  | count => "OverflowError"
  | digits _ | alphabets => "ValueError"
  | lookBehind => "RuntimeError"

inductive Refusal where
  | malformed
  | overrun (o : Overrun)
deriving DecidableEq

structure State where
  rest : List Token
  /-- A lone backslash stands behind the tokens. -/
  isCut : Bool
  groups : Groups
  /-- The flags that hold for the whole pattern. -/
  flags : List Char
  hasRepetition : Bool
  /-- What is looked for behind may differ in length. -/
  looksVaguely : Bool
  /-- What is looked for behind is longer than `Width.reach`. -/
  looksTooFar : Bool

def State.start (ts : List Token) (isCut : Bool) : State where
  rest := ts
  isCut := isCut
  groups := .initial
  flags := []
  hasRepetition := false
  looksVaguely := false
  looksTooFar := false

abbrev Reading (α : Type) : Type := StateT State (Except Refusal) α

namespace Reading

def malformed : Reading α := throw .malformed

/-- Goes on with the tokens in `rest`. The next token is always looked at in advance, so a
lone backslash is found as soon as it is next. -/
def goOn (rest : List Token) : Reading Unit := do
  if rest.isEmpty && (← get).isCut then malformed
  modify fun s => { s with rest }

def peek : Reading (Option Token) := do pure (← get).rest.head?

/-- Takes what `f` finds in front. -/
def take (f : List Token → Option (α × List Token)) : Reading α := do
  match f (← get).rest with
  | some (a, rest) =>
    goOn rest
    pure a
  | none => malformed

def next : Reading Token :=
  take fun
    | [] => none
    | t :: rest => some (t, rest)

def skip (f : List Token → List Token) : Reading Unit := do
  goOn (f (← get).rest)

/-- Takes the character if it is next. -/
def accept (c : Char) : Reading Bool := do
  if (← peek) = some (.plain c) then
    skip (·.drop 1)
    pure true
  else pure false

def expect (c : Char) : Reading Unit := do
  if ← accept c then pure () else malformed

/-- Changes the groups, which may be refused. -/
def update (f : Groups → Option Groups) : Reading Unit := do
  let s ← get
  match f s.groups with
  | some groups => set { s with groups }
  | none => malformed

/-- The width of a group that may be referred to. -/
def reference (n : Nat) : Reading Width := do
  match (← get).groups.width? n with
  | some w => pure w
  | none => malformed

def numberNamed (name : List Char) : Reading Nat := do
  match (← get).groups.names.lookup name with
  | some n => pure n
  | none => malformed

def identifier (mark : Char) : Reading (List Char) := do
  let name ← take (Token.name? mark)
  if Text.isIdentifier name then pure name else malformed

end Reading

end Conformance.Pattern
