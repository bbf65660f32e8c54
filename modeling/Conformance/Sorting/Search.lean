/-!
# Searching a list from one of its ends

How many items in front pass a test that those behind them fail. Only some items are
tested, and where a test is not of that kind the count depends on which ones; so both ways
to count fix them. A list that was turned round is searched from the back of the whole.
-/

namespace Conformance.Sorting

variable {α ε : Type}

/-- The end of the whole at which a list begins. -/
inductive End where
  | front
  | back
deriving DecidableEq

/-- The place of the middle one of `n` items; of two, of the one nearer to the back. -/
def End.middle (n : Nat) : End → Nat
  | .front => n / 2
  | .back => (n - 1) / 2

/-- Tests the middle item and goes on with the half that is open. -/
def countHalving (passes : α → Except ε Bool) (e : End) (as : List α) : Except ε Nat :=
  match h : as[e.middle as.length]? with
  | none => pure 0
  | some a => do
    let middle := e.middle as.length
    if ← passes a then
      pure (middle + 1 + (← countHalving passes e (as.drop (middle + 1))))
    else countHalving passes e (as.take middle)
termination_by as.length
decreasing_by
  all_goals
    have := (List.getElem?_eq_some_iff.1 h).1
    simp only [List.length_drop, List.length_take]
    omega

/-- Tests an item `reach` places off and doubles the reach while it passes; then the items
that were leapt over last are halved. -/
def countReaching (passes : α → Except ε Bool) (e : End) (reach : Nat) (as : List α) :
    Except ε Nat :=
  match h : as[reach]? with
  | none => countHalving passes e as
  | some a => do
    if ← passes a then
      pure (reach + 1 + (← countReaching passes e (2 * reach + 1) (as.drop (reach + 1))))
    else countHalving passes e (as.take reach)
termination_by as.length
decreasing_by
  have := (List.getElem?_eq_some_iff.1 h).1
  simp only [List.length_drop]
  omega

/-- Leaps further and further, for a count that is likely to be small. -/
def countLeaping (passes : α → Except ε Bool) (e : End) : List α → Except ε Nat
  | [] => pure 0
  | a :: as => do
    if ← passes a then pure (1 + (← countReaching passes e 0 as)) else pure 0

end Conformance.Sorting
