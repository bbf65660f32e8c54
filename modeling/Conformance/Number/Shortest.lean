import Conformance.Number.Binary64
/-!
# The shortest decimal that reads back

`shortest m e` is the decimal `c · 10 ^ k` with the fewest digits that lies in the
interval of reals rounding to `m · 2 ^ e`; of two with as many digits the nearer
one, and on a tie the even one. `Layout` says how such a decimal is spelled:
positionally between `10 ^ -4` and `10 ^ 16`, with an exponent of at least two
digits elsewhere.
-/

namespace Conformance.Binary64

/-! ## The search -/

/-- The interval of a double in quarters of its last place: the double itself,
and the first and last quarter that round to it. -/
structure Interval where
  low : Nat
  mid : Nat
  high : Nat
  /-- The ends belong to the interval. -/
  closed : Bool

/-- Below a power of two the doubles lie twice as close. -/
def interval (m : Nat) (e : Int) : Interval where
  low := if m = leastNormal ∧ e > leastExponent then 4 * m - 1 else 4 * m - 2
  mid := 4 * m
  high := 4 * m + 2
  closed := m % 2 == 0

/-- The sign of `a · 10 ^ g - b · 2 ^ e`. -/
def compareScaled (a : Nat) (g : Int) (b : Nat) (e : Int) : Ordering :=
  compare (a * power 10 g * power 2 (-e)) (b * power 2 e * power 10 (-g))

def Interval.contains (i : Interval) (e : Int) (a : Nat) (g : Int) : Bool :=
  match compareScaled a g i.low e, compareScaled a g i.high e with
  | .gt, .lt => true
  | .eq, _ | _, .eq => i.closed
  | _, _ => false

/-- The whole part of `b · 2 ^ e / 10 ^ g`. -/
def gridFloor (b : Nat) (e : Int) (g : Int) : Nat :=
  (b * power 2 e * power 10 (-g)) / (power 10 g * power 2 (-e))

/-- The number of digits before the point of `b · 2 ^ e`; not positive for a value
below a tenth. No double is below `10 ^ -400`. -/
def pointPosition (b : Nat) (e : Int) : Int :=
  ((Nat.toDigits 10 (gridFloor b e (-400))).length : Int) - 400

/-- The point of the grid `10 ^ g` that stands for the interval, if one does. -/
def Interval.gridPoint (i : Interval) (e : Int) (g : Int) : Option Nat :=
  let a := gridFloor i.mid e g
  match i.contains e a g, i.contains e (a + 1) g with
  | true, true =>
    match compareScaled (2 * a + 1) g (2 * i.mid) e with
    | .gt => some a
    | .lt => some (a + 1)
    | .eq => some (if a % 2 == 0 then a else a + 1)
  | true, false => some a
  | false, true => some (a + 1)
  | false, false => none

/-- The first of the next finer grids, `fuel` of them at most, with a point in the
interval. -/
def Interval.firstGrid (i : Interval) (e : Int) : Nat → Int → Nat × Int
  | 0, g => (gridFloor i.mid e g, g)
  | fuel + 1, g =>
    match i.gridPoint e g with
    | some a => (a, g)
    | none => i.firstGrid e fuel (g - 1)

/-- Seventeen digits always tell a double from its neighbours. -/
def shortest (m : Nat) (e : Int) : Nat × Int :=
  let i := interval m e
  i.firstGrid (e - 2) 17 (pointPosition i.mid (e - 2) - 1)

/-! ## The spelling -/

def dropTrailingZeros (digits : List Char) : List Char :=
  (digits.reverse.dropWhile (· == '0')).reverse

def zeros (n : Nat) : List Char := List.replicate n '0'

def exponentText (x : Int) : List Char :=
  let digits := Nat.toDigits 10 x.natAbs
  (if x < 0 then '-' else '+') :: zeros (2 - digits.length) ++ digits

/-- The decimal `0.d₁d₂… · 10 ^ point`. -/
def layout (digits : List Char) (point : Int) : List Char :=
  let n : Int := digits.length
  if -4 < point ∧ point ≤ 16 then
    if point ≤ 0 then '0' :: '.' :: zeros (-point).toNat ++ digits
    else if point ≥ n then digits ++ zeros (point - n).toNat ++ ['.', '0']
    else digits.take point.toNat ++ '.' :: digits.drop point.toNat
  else
    match digits with
    | [] => []
    | [d] => d :: 'e' :: exponentText (point - 1)
    | d :: rest => d :: '.' :: rest ++ 'e' :: exponentText (point - 1)

def magnitudeText (m : Nat) (e : Int) : List Char :=
  if m = 0 then ['0', '.', '0']
  else
    let (c, k) := shortest m e
    let digits := Nat.toDigits 10 c
    layout (dropTrailingZeros digits) (digits.length + k)

/-- How the values that are not numbers are spelled. -/
structure Words where
  infinity : String
  nan : String

def text (w : Words) : Binary64 → String
  | .finite negative m e => (if negative then "-" else "") ++ String.ofList (magnitudeText m e)
  | .infinite negative => (if negative then "-" else "") ++ w.infinity
  | .nan => w.nan

end Conformance.Binary64
