/-!
# Decimals of any precision

A decimal is `± coefficient · 10 ^ exponent`; trailing zeros are kept, so `1.5` and
`1.50` are different decimals of equal value. `text` is the scientific string of
the general decimal arithmetic: positional when the exponent is not positive and
the leading digit is at most six places behind the point. A NaN here is a quiet one,
which differs from everything and compares in peace; `Operand` has the one that signals.
-/

namespace Conformance

inductive Decimal where
  | finite (negative : Bool) (coefficient : Nat) (exponent : Int)
  | infinite (negative : Bool)
  | nan (negative : Bool) (payload : List Char)
deriving DecidableEq

namespace Decimal

/-! ## Writing -/

def signText (negative : Bool) : List Char := if negative then ['-'] else []

/-- The text of `digits · 10 ^ exponent`, which is not negative. -/
def magnitudeText (digits : List Char) (exponent : Int) : List Char :=
  let adjusted : Int := exponent + digits.length - 1
  if exponent ≤ 0 ∧ adjusted ≥ -6 then
    let places := (-exponent).toNat
    if places = 0 then digits
    else if places < digits.length then
      digits.take (digits.length - places) ++ '.' :: digits.drop (digits.length - places)
    else '0' :: '.' :: List.replicate (places - digits.length) '0' ++ digits
  else
    let mantissa := match digits with
      | [] => []
      | [d] => [d]
      | d :: rest => d :: '.' :: rest
    mantissa ++ 'E' :: (if adjusted < 0 then '-' else '+') :: Nat.toDigits 10 adjusted.natAbs

def text : Decimal → String
  | .finite negative c e => String.ofList (signText negative ++ magnitudeText (Nat.toDigits 10 c) e)
  | .infinite negative => String.ofList (signText negative) ++ "Infinity"
  | .nan negative payload => String.ofList (signText negative) ++ "NaN" ++ String.ofList payload

/-! ## Reading -/

def natOfDigits (digits : List Char) : Nat :=
  digits.foldl (fun n c => 10 * n + (c.toNat - '0'.toNat)) 0

def sign : List Char → Bool × List Char
  | '-' :: r => (true, r)
  | '+' :: r => (false, r)
  | r => (false, r)

/-- An exponent with its mark, or nothing. -/
def exponentOf : List Char → Option Int
  | [] => some 0
  | c :: r =>
    let (negative, digits) := sign r
    if c.toLower == 'e' && !digits.isEmpty && digits.all Char.isDigit then
      some (if negative then -(natOfDigits digits : Int) else natOfDigits digits)
    else none

def finiteOf (negative : Bool) (cs : List Char) : Option Decimal :=
  let whole := cs.takeWhile Char.isDigit
  let rest := cs.dropWhile Char.isDigit
  let (places, rest) := match rest with
    | '.' :: r => (r.takeWhile Char.isDigit, r.dropWhile Char.isDigit)
    | r => ([], r)
  if whole.isEmpty && places.isEmpty then none
  else (exponentOf rest).map fun e =>
    .finite negative (natOfDigits (whole ++ places)) (e - places.length)

/-- The decimal a text spells, or `none`. -/
def ofText? (s : String) : Option Decimal :=
  let (negative, cs) := sign s.toList
  let word := cs.map Char.toLower
  if word = "inf".toList ∨ word = "infinity".toList then some (.infinite negative)
  else if word.take 3 = "nan".toList ∧ (cs.drop 3).all Char.isDigit then
    some (.nan negative ((cs.drop 3).dropWhile (· == '0')))
  else finiteOf negative cs

end Decimal

end Conformance
