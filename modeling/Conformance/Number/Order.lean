import Conformance.Number.Exact
/-!
# The order of numbers

Numbers are ordered by exact value, with the infinities at the ends. A double that is
not a number is neither above nor below anything, but a decimal cannot even be compared
if it or the other one is not a number. Two magnitudes are first compared by bounds
on their logarithms, so that the powers in them are only worked out when they are about
as large as each other, and then only by how much their exponents differ.
-/

namespace Conformance

/-! ## Magnitudes -/

/-- The number `core · 2 ^ twos · 5 ^ fives`. -/
structure Magnitude where
  core : Nat
  twos : Int
  fives : Int

namespace Magnitude

/-- Bounds on the binary logarithm of five, in millionths. -/
def log2Five : Int × Int := (2321928, 2321929)

/-- Bounds on the binary logarithm, in millionths, of what is not zero. -/
def logBounds (x : Magnitude) : Int × Int :=
  let (below, above) := if x.fives < 0 then log2Five.swap else log2Five
  let bits : Int := x.core.log2 + x.twos
  (1000000 * bits + below * x.fives, 1000000 * (bits + 1) + above * x.fives)

/-- Compares what is left when common powers are taken away on both sides. -/
def lessReduced (x y : Magnitude) : Bool :=
  let twos := x.twos - y.twos
  let fives := x.fives - y.fives
  x.core * power 2 twos * power 5 fives < y.core * power 2 (-twos) * power 5 (-fives)

def less (x y : Magnitude) : Bool :=
  if x.core = 0 || y.core = 0 then x.core = 0 && y.core != 0
  else if x.logBounds.2 ≤ y.logBounds.1 then true
  else if y.logBounds.2 ≤ x.logBounds.1 then false
  else lessReduced x y

end Magnitude

/-! ## Values -/

/-- Zero has no sign. -/
def Exact.less : Exact → Exact → Bool
  | finite false c a b, finite false d e f => Magnitude.less ⟨c, a, b⟩ ⟨d, e, f⟩
  | finite true c a b, finite true d e f => Magnitude.less ⟨d, e, f⟩ ⟨c, a, b⟩
  | finite m .., finite n .. => m && !n
  | finite .., infinite n => !n
  | infinite m, finite .. => m
  | infinite m, infinite n => m && !n

namespace Number

def less (a b : Number) : Bool :=
  match a.value?, b.value? with
  | some x, some y => x.less y
  | _, _ => false

def isNaN : Number → Bool
  | .float .nan => true
  | _ => false

def isDecimal : Number → Bool
  | .decimal _ => true
  | _ => false

/-- Whether two numbers can be compared. -/
def isComparable (a b : Number) : Bool :=
  !(a.isDecimal || b.isDecimal) || (a.value?.isSome && b.value?.isSome)

def less? (a b : Number) : Option Bool := if a.isComparable b then some (a.less b) else none

end Number

end Conformance
