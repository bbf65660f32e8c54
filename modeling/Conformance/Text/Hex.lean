/-!
# Hexadecimal digits

Written in lower case, read in either.
-/

namespace Conformance.Text

/-- The last `width` hexadecimal digits of `n`. -/
def hexDigits : Nat → Nat → List Char
  | 0, _ => []
  | width + 1, n => hexDigits width (n / 16) ++ [Nat.digitChar (n % 16)]

def hexValue? (c : Char) : Option Nat :=
  if c.isDigit then some (c.toNat - '0'.toNat)
  else if 'a' ≤ c ∧ c ≤ 'f' then some (c.toNat - 'a'.toNat + 10)
  else if 'A' ≤ c ∧ c ≤ 'F' then some (c.toNat - 'A'.toNat + 10)
  else none

/-- The number a run of digits spells. -/
def hexNumber? (cs : List Char) : Option Nat :=
  cs.foldlM (fun n c => (hexValue? c).map (16 * n + ·)) 0

theorem hexValue?_digitChar : ∀ n < 16, hexValue? (Nat.digitChar n) = some n := by decide

theorem length_hexDigits (width n : Nat) : (hexDigits width n).length = width := by
  induction width generalizing n with
  | zero => rfl
  | succ w ih => simp [hexDigits, ih]

theorem hexNumber?_hexDigits (width n : Nat) (h : n < Nat.pow 16 width) :
    hexNumber? (hexDigits width n) = some n := by
  induction width generalizing n with
  | zero =>
    have h0 : n = 0 := Nat.lt_one_iff.1 h
    simp [hexNumber?, hexDigits, h0]
  | succ w ih =>
    have hq : n / 16 < Nat.pow 16 w := Nat.div_lt_of_lt_mul (Nat.mul_comm 16 _ ▸ h)
    have := ih _ hq
    simp only [hexNumber?] at this
    simp [hexNumber?, hexDigits, List.foldlM_append, this,
      hexValue?_digitChar _ (Nat.mod_lt n (by decide)), Nat.div_add_mod]

end Conformance.Text
