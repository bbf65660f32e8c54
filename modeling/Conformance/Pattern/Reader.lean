import Conformance.Pattern.Reading
/-!
# Regular expressions

Whether a text is a well-formed regular expression. A pattern is branches, a branch is
items behind each other. The first fault that is met decides.
-/

namespace Conformance.Pattern

open Reading

/-! ## Repetitions -/

/-- Counts must stay below it. -/
def countLimit : Nat := 4294967295

/-- The digits of bounds behind their brace, no upper ones if there is no upper bound;
`none` when the brace stands for itself. -/
def bounds? (ts : List Token) : Option ((List Char × Option (List Char)) × List Token) :=
  let (low, rest) := Token.spanDigits ts
  match rest with
  | .plain '\x7d' :: rest => if low.isEmpty then none else some ((low, some low), rest)
  | .plain ',' :: rest =>
    let (high, rest) := Token.spanDigits rest
    match rest with
    | .plain '\x7d' :: rest => some ((low, if high.isEmpty then none else some high), rest)
    | _ => none
  | _ => none

def count (digits : List Char) : Reading Nat := do
  if Number.digitLimit < digits.length then throw (.overrun (.digits digits.length))
  let n := decimalNumber digits
  if n < countLimit then pure n else throw (.overrun .count)

/-- How often the item in front is repeated, if it is; the token is taken already. -/
def repetition? (t : Token) : Reading (Option (Nat × Option Nat)) := do
  match t with
  | .plain '*' => pure (some (0, none))
  | .plain '+' => pure (some (1, none))
  | .plain '?' => pure (some (0, some 1))
  | .plain '\x7b' =>
    match bounds? (← get).rest with
    | none => pure none
    | some ((low, high), rest) =>
      goOn rest
      let least ← count low
      let most ← high.mapM count
      if most.all (least ≤ ·) then pure (some (least, most)) else malformed
  | _ => pure none

/-- The items, the last one first, with that one repeated; a mark says how greedily. -/
def repeatLast (low : Nat) (high : Option Nat) (items : List Item) : Reading (List Item) := do
  modify fun s => { s with hasRepetition := true }
  match items with
  | [] => malformed
  | i :: rest =>
    match i.repeated low high with
    | none => malformed
    | some i =>
      unless ← accept '?' do
        let _ ← accept '+'
      pure (i :: rest)

/-! ## Groups -/

/-- Where a branch stands: flags for the whole pattern may be set in front of all else,
and they decide outside of groups whether blanks and comments are skipped. -/
inductive Place where
  | start
  | outside
  | inside (verbose : Bool)
deriving DecidableEq

def Place.isVerbose (p : Place) : Reading Bool := do
  match p with
  | inside verbose => pure verbose
  | start | outside => pure ((← get).flags.contains 'x')

/-- The branches behind the first one. -/
def Place.further : Place → Place
  | start => outside
  | p => p

/-- What a parenthesis begins. -/
inductive Opening where
  | capture (name : Option (List Char))
  | inner (on off : List Char)
  | ahead
  | behind
  | condition (n : Nat)
  /-- All has been read: a comment, flags or a reference. -/
  | done (item : Option Item)

/-- The numbers of groups must stay below it. -/
def groupLimit : Nat := 1073741823

/-- A group to ask for, by name or number. -/
def conditionNumber : Reading Nat := do
  let name ← take (Token.name? ')')
  if Text.isIdentifier name then numberNamed name
  else match Text.number? name with
    | some (n + 1) =>
      if n + 1 < groupLimit && (name.filter Text.isDecimalDigit).length ≤ Number.digitLimit then
        pure (n + 1)
      else malformed
    | _ => malformed

/-- Characters are taken for ASCII or for Unicode, not for both. -/
def areCompatible (flags : List Char) : Bool := !(flags.contains 'a' && flags.contains 'u')

/-- Flags for the whole pattern, or for a group; only some can be switched off there. -/
def flagged (atStart : Bool) : Reading Opening := do
  let flagsAmong (all : String) (ts : List Token) :=
    some (Token.spanChars all.toList.contains ts.length ts)
  let on ← take (flagsAmong "aimsutx")
  unless areCompatible on do malformed
  match ← next with
  | .plain ')' =>
    if on.isEmpty || !atStart then malformed
    modify fun s => { s with flags := on ++ s.flags }
    pure (.done none)
  | .plain ':' => if on.contains 't' then malformed else pure (.inner on [])
  | .plain '-' =>
    let off ← take (flagsAmong "imsx")
    expect ':'
    if on.contains 't' || off.isEmpty || on.any off.contains then malformed
    pure (.inner on off)
  | _ => malformed

def opening (atStart : Bool) : Reading Opening := do
  unless ← accept '?' do return .capture none
  if ← accept 'P' then
    if ← accept '<' then pure (.capture (some (← identifier '>')))
    else
      expect '='
      let w ← reference (← numberNamed (← identifier ')'))
      pure (.done (some ⟨.atom, w⟩))
  else if ← accept '#' then
    let _ ← take (Token.splitAt? ')')
    pure (.done none)
  else if ← accept '=' then pure .ahead
  else if ← accept '!' then pure .ahead
  else if ← accept '<' then
    unless ← accept '=' do expect '!'
    pure .behind
  else if ← accept '(' then
    let n ← conditionNumber
    update (·.ask? n)
    pure (.condition n)
  else if ← accept '>' then pure (.inner [] [])
  else flagged atStart

/-- Reads on up to the end of the group, its branches by `branches` and those of a
condition by `branch`. -/
def Opening.read (o : Opening) (verbose : Bool) (branches branch : Place → Reading Width) :
    Reading (Option Item) := do
  match o with
  | done item => pure item
  | capture name =>
    let n := (← get).groups.count
    update (·.open? name)
    let w ← branches (.inside verbose)
    expect ')'
    update fun g => some (g.close n w)
    pure (some ⟨.atom, w⟩)
  | inner on off =>
    let w ← branches (.inside ((verbose || on.contains 'x') && !off.contains 'x'))
    expect ')'
    pure (some ⟨.atom, w⟩)
  | ahead =>
    let _ ← branches (.inside verbose)
    expect ')'
    pure (some ⟨.atom, .zero⟩)
  | behind =>
    let before := (← get).groups.behind
    update (·.enterBehind)
    let w ← branches (.inside verbose)
    update fun g => some { g with behind := before }
    expect ')'
    modify fun s =>
      { s with
        looksVaguely := s.looksVaguely || !w.isFixed
        looksTooFar := s.looksTooFar || Width.reach < w.least }
    pure (some ⟨.atom, .zero⟩)
  | condition _ =>
    let yes ← branch (.inside verbose)
    let no ← if ← accept '|' then branch (.inside verbose) else pure .zero
    expect ')'
    pure (some ⟨.atom, yes.either no⟩)

/-! ## Branches -/

def isBlankToken (t : Token) : Bool :=
  match t with
  | .plain c => " \t\n\r\x0b\x0c".toList.contains c
  | .escaped _ => false

/-- A token that is neither a repetition nor a parenthesis. -/
def simpleItem (t : Token) : Reading Item := do
  match t with
  | .plain '^' | .plain '$' => pure ⟨.position, .zero⟩
  | .plain '[' =>
    take fun ts => (behindSet? ts).map fun rest => ((), rest)
    pure .single
  | .plain _ => pure .single
  | .escaped c =>
    match ← take (escape? c) with
    | .position => pure ⟨.position, .zero⟩
    | .character => pure .single
    | .group n => pure ⟨.atom, ← reference n⟩

mutual

/-- Branches up to the end of a group or of the pattern. -/
def branches : Nat → Place → Reading Width
  | 0, _ => malformed
  | fuel + 1, place => do
    let w ← branch fuel place []
    if ← accept '|' then pure (w.either (← branches fuel place.further)) else pure w

/-- A branch whose last items come first in `items`. -/
def branch : Nat → Place → List Item → Reading Width
  | 0, _, _ => malformed
  | fuel + 1, place, items => do
    match ← peek with
    | none | some (.plain '|') | some (.plain ')') => pure (Width.sum (items.map (·.width)))
    | some t =>
      skip (·.drop 1)
      let verbose ← place.isVerbose
      if verbose && isBlankToken t then branch fuel place items
      else if verbose && t = .plain '#' then
        skip fun ts => (ts.dropWhile (· != .plain '\n')).drop 1
        branch fuel place items
      else if t = .plain '(' then
        let o ← opening (place = .start && items.isEmpty)
        let item ← o.read verbose (branches fuel) (branch fuel · [])
        branch fuel place (item.toList ++ items)
      else match ← repetition? t with
        | some (low, high) => branch fuel place (← repeatLast low high items)
        | none => branch fuel place ((← simpleItem t) :: items)

end

/-! ## Patterns -/

/-- A whole pattern; each token is met by two steps at most. Only what has a form that can
be read is put together, and then the flag `t` allows no repetitions. -/
def pattern : Reading Unit := do
  goOn (← get).rest
  let _ ← branches (2 * (← get).rest.length + 2) .start
  let s ← get
  unless areCompatible s.flags do throw (.overrun .alphabets)
  unless s.rest.isEmpty && s.groups.asked < s.groups.count do malformed
  if s.hasRepetition && s.flags.contains 't' || s.looksVaguely then malformed
  if s.looksTooFar then throw (.overrun .lookBehind)

/-- A pattern that oversteps a limit has no answer. -/
def isWellFormed (s : String) : Except Overrun Bool :=
  let (ts, left) := Token.ofChars s.toList
  match pattern.run' (.start ts !left.isEmpty) with
  | .ok () => pure true
  | .error .malformed => pure false
  | .error (.overrun o) => throw o

end Conformance.Pattern
