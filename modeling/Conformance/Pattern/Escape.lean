import Conformance.Pattern.Groups
import Conformance.Pattern.Token
import Conformance.Text.CharacterName
/-!
# Escapes

What a backslash and the character behind it stand for: a character, a class of
characters, a position or an earlier group, with the tokens behind it.
-/

namespace Conformance.Pattern

/-- The number in the `width` characters in front, all of them hexadecimal digits. -/
def hexNumber? (width : Nat) (ts : List Token) : Option (Nat × List Token) :=
  let (digits, rest) := Token.spanChars (Text.hexValue? · |>.isSome) width ts
  if digits.length = width then (Text.hexNumber? digits).map fun n => (n, rest) else none

/-- A character by its name in braces. -/
def namedNumber? : List Token → Option (Nat × List Token)
  | .plain '\x7b' :: rest => do
    let (name, rest) ← Token.name? '\x7d' rest
    pure (← Text.CharacterName.named? name, rest)
  | _ => none

def isOctal (c : Char) : Bool := '0' ≤ c && c ≤ '7'

def octalNumber (digits : List Char) : Nat :=
  digits.foldl (fun n c => 8 * n + (c.toNat - '0'.toNat)) 0

def decimalNumber (digits : List Char) : Nat :=
  digits.foldl (fun n c => 10 * n + (c.toNat - '0'.toNat)) 0

/-- A character, by its number, or a class of characters, which has none: what is alike
inside and outside of sets. -/
def character? (c : Char) (rest : List Token) : Option (Option Nat × List Token) :=
  match c with
  | 'x' => (hexNumber? 2 rest).map fun (n, rest) => (some n, rest)
  | 'u' => (hexNumber? 4 rest).map fun (n, rest) => (some n, rest)
  | 'U' => ((hexNumber? 8 rest).filter (·.1 < 0x110000)).map fun (n, rest) => (some n, rest)
  | 'N' => (namedNumber? rest).map fun (n, rest) => (some n, rest)
  | 'd' | 'D' | 's' | 'S' | 'w' | 'W' => some (none, rest)
  | 'a' => some (some 7, rest)
  | 'f' => some (some 12, rest)
  | 'n' => some (some 10, rest)
  | 'r' => some (some 13, rest)
  | 't' => some (some 9, rest)
  | 'v' => some (some 11, rest)
  | c => if c.isAlphanum then none else some (some c.toNat, rest)

/-- In a set a number is one in up to three octal digits. -/
def setCharacter? (c : Char) (rest : List Token) : Option (Option Nat × List Token) :=
  if c = 'b' then some (some 8, rest)
  else if isOctal c then
    let (digits, rest) := Token.spanChars isOctal 2 rest
    let n := octalNumber (c :: digits)
    if n ≤ 255 then some (some n, rest) else none
  else character? c rest

inductive Escape where
  | position
  | character
  | group (n : Nat)

/-- A number is a character when it begins with zero or has three octal digits, and else
a group with one or two digits. -/
def numbered? (c : Char) (rest : List Token) : Option (Escape × List Token) :=
  if c = '0' then some (.character, (Token.spanChars isOctal 2 rest).2)
  else
    let (further, behind) := Token.spanChars isOctal 2 rest
    if isOctal c && further.length = 2 then
      if octalNumber (c :: further) ≤ 255 then some (.character, behind) else none
    else
      let (digits, rest) := Token.spanChars Char.isDigit 1 rest
      some (.group (decimalNumber (c :: digits)), rest)

def escape? (c : Char) (rest : List Token) : Option (Escape × List Token) :=
  if "AbBZ".toList.contains c then some (.position, rest)
  else if c.isDigit then numbered? c rest
  else (character? c rest).map fun (_, rest) => (.character, rest)

end Conformance.Pattern
