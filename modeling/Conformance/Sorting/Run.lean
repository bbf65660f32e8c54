import Conformance.Sorting.Search
/-!
# Runs

The longest run in front is kept, turned round if it goes down. A run that is too short is
made longer: every further item is put in by halving, behind those that it does not come
before.
-/

namespace Conformance.Sorting

variable {α ε : Type} (less : α → α → Except ε Bool)

/-- The items that continue a run behind `last`, and those behind them. -/
def runBehind (isDown : Bool) (last : α) : List α → Except ε (List α × List α)
  | [] => pure ([], [])
  | a :: rest => do
    if (← less a last) = isDown then
      let (run, rest) ← runBehind isDown a rest
      pure (a :: run, rest)
    else pure ([], a :: rest)

def firstRun : List α → Except ε (List α × List α)
  | a :: b :: rest => do
    let isDown ← less b a
    let (run, rest) ← runBehind less isDown b rest
    let run := a :: b :: run
    pure (if isDown then run.reverse else run, rest)
  | as => pure (as, [])

/-- Whether an item that is in place stays in front of one that is put in. -/
def staysBefore (a b : α) : Except ε Bool := do
  pure (!(← less b a))

def insertHalving (sorted : List α) (a : α) : Except ε (List α) := do
  let place ← countHalving (staysBefore less · a) .front sorted
  pure (sorted.insertIdx place a)

/-- The first run, of `least` items at least if there are so many, and what is behind it. -/
def takeRun (least : Nat) (as : List α) : Except ε (List α × List α) := do
  let (run, rest) ← firstRun less as
  let lacking := least - run.length
  let run ← (rest.take lacking).foldlM (insertHalving less) run
  pure (run, rest.drop lacking)

end Conformance.Sorting
