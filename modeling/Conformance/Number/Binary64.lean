/-!
# Double-precision numbers, exactly

A finite double is `± mantissa · 2 ^ exponent` with both parts kept as whole
numbers, so nothing here rounds except `nearest`, which is the one place where a
decimal becomes a double. Halves go to the even mantissa.
-/

namespace Conformance

/-- The power `base ^ e`; one for an exponent below zero. -/
def power (base : Nat) (e : Int) : Nat := Nat.pow base e.toNat

inductive Binary64 where
  | finite (negative : Bool) (mantissa : Nat) (exponent : Int)
  | infinite (negative : Bool)
  | nan
deriving DecidableEq

namespace Binary64

/-- The exponent of the smallest double, and of every double below `2 ^ -1022`. -/
def leastExponent : Int := -1074

/-- The exponent of the largest doubles. -/
def greatestExponent : Int := 971

/-- The first mantissa with 53 bits. -/
def leastNormal : Nat := 0x10000000000000

def zero (negative : Bool) : Binary64 := .finite negative 0 leastExponent

/-! ## Rounding -/

/-- The whole number nearest to `num / den`; a half goes to the even one. -/
def divideToEven (num den : Nat) : Nat :=
  let q := num / den
  let r := num % den
  if 2 * r > den || (2 * r == den && q % 2 == 1) then q + 1 else q

/-- The fraction `num / (den · 2 ^ e)`. -/
def scaleDown (num den : Nat) (e : Int) : Nat × Nat :=
  (num * power 2 (-e), den * power 2 e)

/-- The exponent at which `num / den` has a mantissa of 53 bits, or the least
exponent if that is higher. -/
def exponentFor (num den : Nat) : Int :=
  let e : Int := (num.log2 : Int) - (den.log2 : Int) - 53
  let (n, d) := scaleDown num den e
  max (if n / d ≥ 2 * leastNormal then e + 1 else e) leastExponent

/-- The double nearest to `± num / den`, for positive `num` and `den`. -/
def nearest (negative : Bool) (num den : Nat) : Binary64 :=
  let e := exponentFor num den
  let (n, d) := scaleDown num den e
  let m := divideToEven n d
  let (m, e) := if m ≥ 2 * leastNormal then (leastNormal, e + 1) else (m, e)
  if e > greatestExponent then .infinite negative else .finite negative m e

/-- The double nearest to `± coefficient · 10 ^ exponent`. Beyond `10 ^ 310` and
below `10 ^ -330` the answer is known from the number of digits alone. -/
def ofScaled (negative : Bool) (coefficient : Nat) (exponent : Int) : Binary64 :=
  let size : Int := (Nat.toDigits 10 coefficient).length + exponent
  if coefficient = 0 ∨ size < -330 then zero negative
  else if size > 310 then .infinite negative
  else nearest negative (coefficient * power 10 exponent) (power 10 (-exponent))

/-- Whether the double is a whole number. -/
def isWhole : Binary64 → Bool
  | .finite _ m e => m % power 2 (-e) == 0
  | _ => false

end Binary64

end Conformance
