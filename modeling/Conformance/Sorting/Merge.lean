import Conformance.Sorting.Run
/-!
# Merging two runs

Two runs that follow each other become one. Items are placed one by one from one end of
the whole, until one run has won so often in a row that it pays to leap: then it is
searched how many of its items go before the next one of the other. How often is often
is learnt from merge to merge.
-/

namespace Conformance.Sorting

variable {α ε : Type} (less : α → α → Except ε Bool)

inductive Side where
  | first
  | second
deriving DecidableEq

def Side.other : Side → Side
  | .first => .second
  | .second => .first

/-- The run whose last item has to wait until all of the other run has been placed. -/
def End.keeper : End → Side
  | .front => .first
  | .back => .second

/-- Whether an item of a side is placed before one of the other side. The second run wins
at the front, and the first one at the back, only if they are not in order. -/
def precedes (e : End) : Side → α → α → Except ε Bool
  | .first, a, b => do pure ((← less b a) == (e == .back))
  | .second, a, b => do pure ((← less a b) == (e == .front))

/-! ## A merge under way -/

/-- What has been placed, the last item first, and what has not; and how often in a row a
run must win before it leaps. -/
structure Merge (α : Type) where
  placed : List α
  first : List α
  second : List α
  patience : Nat

namespace Merge

def items (m : Merge α) : Side → List α
  | .first => m.first
  | .second => m.second

def place (m : Merge α) (count : Nat) : Side → Merge α
  | .first =>
    { m with placed := (m.first.take count).reverse ++ m.placed, first := m.first.drop count }
  | .second =>
    { m with placed := (m.second.take count).reverse ++ m.placed, second := m.second.drop count }

def isOver (m : Merge α) (e : End) : Bool :=
  (m.items e.keeper.other).isEmpty || (m.items e.keeper).tail.isEmpty

def result (m : Merge α) (e : End) : List α :=
  m.placed.reverse ++ m.items e.keeper.other ++ m.items e.keeper

/-- Places one item, and tells of which side. -/
def step (m : Merge α) (e : End) : Except ε (Merge α × Side) :=
  match m.first, m.second with
  | a :: _, b :: _ => do
    let winner := if ← precedes less e .first a b then Side.first else .second
    pure (m.place 1 winner, winner)
  | _, _ => pure (m, .first)

/-- Places the items of a side that precede the next one of the other, tells their number,
and places that one too if the merge is not over. -/
def leap (m : Merge α) (e : End) (s : Side) : Except ε (Merge α × Nat) :=
  match m.items s.other with
  | [] => pure (m, 0)
  | b :: _ => do
    let count ← countLeaping (precedes less e s · b) e (m.items s)
    let m := m.place count s
    pure (if m.isOver e then m else m.place 1 s.other, count)

/-- Both sides leap in turn; tells the longer leap. -/
def leapBoth (m : Merge α) (e : End) : Except ε (Merge α × Nat) := do
  let (m, count) ← m.leap less e .first
  if m.isOver e then pure (m, count)
  else
    let (m, further) ← m.leap less e .second
    pure (m, max count further)

end Merge

/-! ## A whole merge -/

/-- How a merge goes on: by steps, of which the last ones have been won in a row by one side,
or by leaps, of which the longest is known. -/
inductive Pace where
  | steps (winner : Side) (row : Nat)
  | leaps (longest : Nat)

/-- The patience at the beginning, and the length below which leaps do not pay. -/
def leapLength : Nat := 7

/-- Leaps that pay make the next ones come sooner. Of two turns one at least places an
item, so twice the number of items is fuel enough. -/
def Merge.run (e : End) : Nat → Pace → Merge α → Except ε (Merge α)
  | 0, _, m => pure m
  | fuel + 1, pace, m =>
    if m.isOver e then pure m
    else
      match pace with
      | .steps winner row => do
        if row < m.patience then
          let (m, s) ← m.step less e
          run e fuel (.steps s (if s = winner then row + 1 else 1)) m
        else
          let (m, longest) ← m.leapBoth less e
          run e fuel (.leaps longest) m
      | .leaps longest => do
        if longest < leapLength then
          run e fuel (.steps .first 0) { m with patience := m.patience + 1 }
        else
          let (m, longest) ← { m with patience := max 1 (m.patience - 1) }.leapBoth less e
          run e fuel (.leaps longest) m

/-- The runs as they are met from that end, where it is known which one wins first. The
state is the patience. -/
def mergeFrom (e : End) (first second : List α) : StateT Nat (Except ε) (List α) := fun patience => do
  let m := { placed := [], first, second, patience : Merge α }.place 1 e.keeper.other
  let m ← m.run less e (2 * (first.length + second.length)) (.steps .first 0)
  pure (m.result e, m.patience)

/-- What is in place at the two ends stays there; the rest is merged from the end where the
shorter run is. -/
def merge (first second : List α) : StateT Nat (Except ε) (List α) :=
  match first.getLast?, second with
  | some a, b :: _ => do
    let before ← countLeaping (staysBefore less · b) .front first
    let upper := first.drop before
    if upper.isEmpty then pure (first ++ second)
    else
      let behind ← countLeaping (staysBefore less a) .back second.reverse
      let (lower, rest) := second.splitAt (second.length - behind)
      if lower.isEmpty then pure (first ++ second)
      else
        let merged ←
          if upper.length ≤ lower.length then mergeFrom less .front upper lower
          else List.reverse <$> mergeFrom less .back upper.reverse lower.reverse
        pure (first.take before ++ merged ++ rest)
  | _, _ => pure (first ++ second)

end Conformance.Sorting
