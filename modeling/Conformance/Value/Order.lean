import Conformance.Number.Order
import Conformance.Value.Equality
/-!
# The order of values

Numbers are ordered by value, texts by their characters, and lists, like tuples, by the
first place where they differ, the shorter one first if there is none. No other values
are ordered. Inside of lists the booleans count as zero and one, both when items are
compared and when they are told apart.
-/

namespace Conformance.Value

/-! ## Agreement -/

/-- How closely values must agree: strictly, a boolean is no number, but a list may agree
with a tuple; loosely it is the other way round. -/
inductive Agreement where
  | strict
  | loose
deriving DecidableEq

def boolNumber (b : Bool) : Number := .int (if b then 1 else 0)

mutual

/-- Doubles that are no numbers agree with each other. -/
def agree (how : Agreement) : Value → Value → Bool
  | .null, .null => true
  | .bool a, .bool b => a == b
  | .bool a, .num b => how = .loose && (boolNumber a).same b
  | .num a, .bool b => how = .loose && a.same (boolNumber b)
  | .num a, .num b => a.same b || (a.isNaN && b.isNaN)
  | .str a, .str b => a == b
  | .arr s xs, .arr t ys => (how = .strict || s = t) && agreeItems how xs ys
  | .obj xs, .obj ys => ys.all (fun (k, _) => Entries.has k xs) && agreeEntries how xs ys
  | .foreign i _, .foreign j _ => i == j
  | _, _ => false

def agreeItems (how : Agreement) : List Value → List Value → Bool
  | [], [] => true
  | x :: xs, y :: ys => agree how x y && agreeItems how xs ys
  | _, _ => false

def agreeEntries (how : Agreement) : List (String × Value) → List (String × Value) → Bool
  | [], _ => true
  | (k, x) :: xs, ys =>
    (match ys.lookup k with
      | some y => agree how x y
      | none => false) && agreeEntries how xs ys

end

/-! ## Order -/

/-- Why two values cannot be compared. -/
inductive Disorder where
  /-- There is no order among values of such kinds. -/
  | noOrder
  /-- One is a decimal, and it or the other is not a number. -/
  | notNumber
deriving DecidableEq

def lessNumber (a b : Number) : Except Disorder Bool :=
  match a.less? b with
  | some isLess => pure isLess
  | none => throw .notNumber

mutual

/-- Whether a value comes before another. -/
def less : Value → Value → Except Disorder Bool
  | .bool a, .bool b => pure ((boolNumber a).less (boolNumber b))
  | .bool a, .num b => lessNumber (boolNumber a) b
  | .num a, .bool b => lessNumber a (boolNumber b)
  | .num a, .num b => lessNumber a b
  | .str a, .str b => pure (a < b)
  | .arr s xs, .arr t ys => if s = t then lessItems xs ys else throw .noOrder
  | _, _ => throw .noOrder

def lessItems : List Value → List Value → Except Disorder Bool
  | [], ys => pure (!ys.isEmpty)
  | _ :: _, [] => pure false
  | x :: xs, y :: ys => if agree .loose x y then lessItems xs ys else less x y

end

end Conformance.Value
