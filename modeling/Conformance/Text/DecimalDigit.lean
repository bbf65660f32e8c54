import Conformance.Text.Ranges
/-!
# Decimal digits

Unicode 14.0 has the digits from zero to nine in many scripts, always ten in a row. A
number may be written in any of them, with blanks around it, a plus in front and single
underscores between its digits.
-/

namespace Conformance.Text

/-- The zeros. -/
def decimalZeros : List Nat :=
  [0x30, 0x660, 0x6f0, 0x7c0, 0x966, 0x9e6, 0xa66, 0xae6, 0xb66, 0xbe6, 0xc66, 0xce6, 0xd66, 0xde6,
   0xe50, 0xed0, 0xf20, 0x1040, 0x1090, 0x17e0, 0x1810, 0x1946, 0x19d0, 0x1a80, 0x1a90, 0x1b50,
   0x1bb0, 0x1c40, 0x1c50, 0xa620, 0xa8d0, 0xa900, 0xa9d0, 0xa9f0, 0xaa50, 0xabf0, 0xff10, 0x104a0,
   0x10d30, 0x11066, 0x110f0, 0x11136, 0x111d0, 0x112f0, 0x11450, 0x114d0, 0x11650, 0x116c0,
   0x11730, 0x118e0, 0x11950, 0x11c50, 0x11d50, 0x11da0, 0x16a60, 0x16ac0, 0x16b50, 0x1d7ce,
   0x1d7d8, 0x1d7e2, 0x1d7ec, 0x1d7f6, 0x1e140, 0x1e2f0, 0x1e950, 0x1fbf0]
/-- What a decimal digit counts. -/
def digitValue? (c : Char) : Option Nat :=
  (decimalZeros.find? fun z => z ≤ c.toNat && c.toNat < z + 10).map (c.toNat - ·)

def isDecimalDigit (c : Char) : Bool := (digitValue? c).isSome

/-! ## Numbers -/

/-- The control characters from U+001C to U+001F are no blanks here. -/
def isBlank (c : Char) : Bool :=
  isWithin [(0x9, 0xd), (0x20, 0x20), (0x85, 0x85), (0xa0, 0xa0), (0x1680, 0x1680),
    (0x2000, 0x200a), (0x2028, 0x2029), (0x202f, 0x202f), (0x205f, 0x205f), (0x3000, 0x3000)] c

/-- The digits behind those that make up `n`. -/
def furtherDigits (n : Nat) : List Char → Option Nat
  | [] => some n
  | '_' :: c :: rest => (digitValue? c).bind fun d => furtherDigits (10 * n + d) rest
  | c :: rest => (digitValue? c).bind fun d => furtherDigits (10 * n + d) rest

def digitsNumber? : List Char → Option Nat
  | [] => none
  | c :: rest => (digitValue? c).bind fun d => furtherDigits d rest

def withoutBlanks (cs : List Char) : List Char :=
  ((cs.dropWhile isBlank).reverse.dropWhile isBlank).reverse

/-- A number that is not negative. -/
def number? (cs : List Char) : Option Nat :=
  match withoutBlanks cs with
  | '+' :: digits => digitsNumber? digits
  | digits => digitsNumber? digits

end Conformance.Text
