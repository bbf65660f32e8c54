import Conformance.Sorting.Basic
import Conformance.Value.Order
/-!
# Distinct values

Whether a list has no two values that agree. Values that can be sorted are sorted, and
then only neighbours are compared; if some of them have no order, all pairs are. The
two ways can differ where the order takes for equal what does not agree, as with `[1]`
and `[true]`, or where it has gaps, as with what is not a number; so it counts how the
values are sorted. There is no answer if a comparison breaks down on the way.
-/

namespace Conformance.Value

/-- On its own a boolean has no order. -/
def lessAlone : Value → Value → Except Disorder Bool
  | .bool _, _ | _, .bool _ => throw .noOrder
  | v, w => v.less w

def neighboursDiffer : List Value → Bool
  | v :: w :: rest => !v.agree .strict w && neighboursDiffer (w :: rest)
  | _ => true

def allDiffer : List Value → Bool
  | [] => true
  | v :: rest => !rest.any (v.agree .strict) && allDiffer rest

/-- There is no answer where a number cannot be compared. -/
def areDistinct? (vs : List Value) : Option Bool :=
  match Sorting.sort lessAlone vs with
  | .ok sorted => some (neighboursDiffer sorted)
  | .error .noOrder => some (allDiffer vs)
  | .error .notNumber => none

end Conformance.Value
