import Conformance.Sorting.Merge
/-!
# Sorting

A list is cut into runs, and neighbouring runs are merged so that the merges are nearly
balanced. For a proper order the result is the sorted list in which equal items keep
their order; for any other it depends on which items are compared, and these are fixed
here.
-/

namespace Conformance.Sorting

variable {α ε : Type} (less : α → α → Except ε Bool)

/-! ## The shape of the merges -/

/-- How long the runs of a list are at least: all of a short list, else from 32 to 64 items,
so that there are as many runs as a power of two or a little fewer. -/
def leastRun (length : Nat) : Nat :=
  let parts := Nat.pow 2 (length.log2 - 5)
  (length + parts - 1) / parts

/-- How often the whole must be halved until a cut comes between the middles of the two runs
that meet at `cut`. -/
def depth (length cut before behind : Nat) : Nat :=
  let part (halvings middle : Nat) := Nat.pow 2 halvings * middle / length
  ((List.range (length.log2 + 2)).find? fun halvings =>
    part halvings (2 * cut - before) != part halvings (2 * cut + behind)).getD 0

/-- A run that has yet to be merged, and the depth of its boundary with the one before. -/
structure Pending (α : Type) where
  items : List α
  depth : Nat

/-- The last run is in front; it is merged with the one before it while their boundary is
deeper than the next one. -/
def mergeDeeper (next : Nat) : List (Pending α) → StateT Nat (Except ε) (List (Pending α))
  | last :: before :: rest => do
    if next < last.depth then
      let items ← merge less before.items last.items
      mergeDeeper next ({ items, depth := before.depth } :: rest)
    else pure (last :: before :: rest)
  | pending => pure pending
termination_by pending => pending.length

/-- The last run is in front; of three, the shorter one of the outer ones is merged first. -/
def mergeAll : List (List α) → StateT Nat (Except ε) (List α)
  | [] => pure []
  | [run] => pure run
  | [last, before] => merge less before last
  | last :: middle :: before :: rest => do
    if before.length < last.length then
      mergeAll (last :: (← merge less before middle) :: rest)
    else mergeAll ((← merge less middle last) :: before :: rest)
termination_by runs => runs.length

/-! ## The whole -/

/-- A run has an item at least, so the number of items is fuel enough. -/
def pendingRuns (length : Nat) :
    Nat → List α → List (Pending α) → StateT Nat (Except ε) (List (Pending α))
  | 0, _, pending => pure pending
  | fuel + 1, as, pending => do
    let (items, rest) ← takeRun less (leastRun length) as
    let depth := match pending with
      | [] => 0
      | last :: _ => depth length (length - as.length) last.items.length items.length
    let pending ← mergeDeeper less depth pending
    let pending := { items, depth } :: pending
    if rest.isEmpty then pure pending else pendingRuns length fuel rest pending

def sort (as : List α) : Except ε (List α) :=
  let sorted : StateT Nat (Except ε) (List α) := do
    let pending ← pendingRuns less as.length as.length as []
    mergeAll less (pending.map (·.items))
  sorted.run' leapLength

end Conformance.Sorting
