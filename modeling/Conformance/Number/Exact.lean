import Conformance.Number.Binary64
import Conformance.Number.Decimal
/-!
# Numbers and their exact values

A number is a whole number, a double or a decimal. Each finite one is
`± core · 2 ^ twos · 5 ^ fives` for exactly one `core` that neither two nor five
divides, so two numbers are equal when these parts are. Infinities are equal by
sign, and what is not a number equals nothing.
-/

namespace Conformance

inductive Number where
  | int (n : Int)
  | float (x : Binary64)
  | decimal (d : Decimal)
deriving DecidableEq

/-- A number's value. -/
inductive Exact where
  | finite (negative : Bool) (core : Nat) (twos fives : Int)
  | infinite (negative : Bool)
deriving DecidableEq

/-- What is left of `n` without its factors `p`, and how many there were; `fuel` bounds
their number. -/
def splitFactor (p : Nat) : Nat → Nat → Nat × Nat
  | 0, n => (n, 0)
  | fuel + 1, n =>
    if n % p = 0 then
      let (core, count) := splitFactor p fuel (n / p)
      (core, count + 1)
    else (n, 0)

theorem splitFactor_spec (p fuel n : Nat) :
    (splitFactor p fuel n).1 * Nat.pow p (splitFactor p fuel n).2 = n := by
  induction fuel generalizing n with
  | zero => exact Nat.mul_one n
  | succ fuel ih =>
    rw [splitFactor]
    split
    · next h =>
      calc (splitFactor p fuel (n / p)).1 * (Nat.pow p (splitFactor p fuel (n / p)).2 * p)
        _ = n / p * p := by rw [← Nat.mul_assoc, ih]
        _ = n := Nat.div_mul_cancel (Nat.dvd_of_mod_eq_zero h)
    · exact Nat.mul_one n

/-- The value `± n · 2 ^ twos · 5 ^ fives`. -/
def Exact.ofScaled (negative : Bool) (n : Nat) (twos fives : Int) : Exact :=
  if n = 0 then .finite false 0 0 0
  else
    let (core, a) := splitFactor 2 (n.log2 + 1) n
    let (core, b) := splitFactor 5 (n.log2 + 1) core
    .finite negative core (twos + a) (fives + b)

namespace Number

/-- The exact value; `none` for what is not a number. -/
def value? : Number → Option Exact
  | .int n => some (.ofScaled (n < 0) n.natAbs 0 0)
  | .float (.finite s m e) => some (.ofScaled s m e 0)
  | .float (.infinite s) => some (.infinite s)
  | .float .nan => none
  | .decimal (.finite s c e) => some (.ofScaled s c e e)
  | .decimal (.infinite s) => some (.infinite s)
  | .decimal (.nan ..) => none

/-- Equality of value. -/
def same (a b : Number) : Bool :=
  match a.value?, b.value? with
  | some x, some y => x = y
  | _, _ => false

theorem same_iff {a b : Number} : a.same b = true ↔ ∃ x, a.value? = some x ∧ b.value? = some x := by
  unfold same
  split <;> simp_all
  exact eq_comm

def isZero (n : Number) : Bool := n.value? = some (.finite false 0 0 0)

end Number

end Conformance
