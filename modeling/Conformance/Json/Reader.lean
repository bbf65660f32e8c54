import Conformance.Text.Hex
import Conformance.Value.Basic
import Conformance.Json.Writer
/-!
# Reading JSON

The reader works on what is left of the text and returns what it leaves; a fault
is placed by the number of characters left at it. `fuel` bounds the recursion: of
two calls inside each other one consumes a character, so twice the length of the
text and one more suffice.
`NaN` and the infinities are read too, a repeated key keeps its first place and
its last value, and whole numbers may have 4300 digits. Texts are made of characters,
and a surrogate is none. So a document is read twice: once with any character in place
of each surrogate that is escaped alone, for faults, and once for the value, where such
a surrogate stops the reading.
-/

namespace Conformance.Json

inductive Fault where
  | byteOrderMark
  | value
  | name
  | colon
  | comma
  | extraData
  | unterminatedText
  | controlCharacter
  | escape
  | unicodeEscape
deriving DecidableEq

def Fault.message : Fault → String
  | byteOrderMark => "Unexpected UTF-8 BOM (decode using utf-8-sig)"
  | value => "Expecting value"
  | name => "Expecting property name enclosed in double quotes"
  | colon => "Expecting ':' delimiter"
  | comma => "Expecting ',' delimiter"
  | extraData => "Extra data"
  | unterminatedText => "Unterminated string starting at"
  | controlCharacter => "Invalid control character at"
  | escape => "Invalid \\escape"
  | unicodeEscape => "Invalid \\uXXXX escape"

/-- Why reading stops: a fault with so many characters left, a whole number with too
many digits, or a surrogate that stands alone where none is admitted. -/
inductive Stop where
  | fault (what : Fault) (left : Nat)
  | tooManyDigits (digits : Nat)
  | surrogate
deriving DecidableEq

def stopAt {α : Type} (what : Fault) (rest : List Char) : Except Stop α :=
  throw (.fault what rest.length)

/-! ## Space -/

def isSpace (c : Char) : Bool := c == ' ' || c == '\t' || c == '\n' || c == '\r'

def skipSpace (cs : List Char) : List Char := cs.dropWhile isSpace

/-! ## Texts -/

def simpleEscape? : Char → Option Char
  | '"' => some '"'
  | '\\' => some '\\'
  | '/' => some '/'
  | 'b' => some '\x08'
  | 'f' => some '\x0c'
  | 'n' => some '\n'
  | 'r' => some '\r'
  | 't' => some '\t'
  | _ => none

def isHighSurrogate (n : Nat) : Bool := 0xd800 ≤ n && n ≤ 0xdbff

def isLowSurrogate (n : Nat) : Bool := 0xdc00 ≤ n && n ≤ 0xdfff

def pairSurrogates (high low : Nat) : Nat := 0x10000 + 1024 * (high - 0xd800) + (low - 0xdc00)

/-- The number spelled by the four digits after the `u` that `cs` begins with. -/
def unicodeNumber (cs : List Char) : Except Stop (Nat × List Char) :=
  let digits := (cs.drop 1).take 4
  let rest := cs.drop 5
  if digits.length < 4 || rest.isEmpty then stopAt .unicodeEscape cs
  else match Text.hexNumber? digits with
    | some n => pure (n, rest)
    | none => stopAt .unicodeEscape cs

section

-- what a surrogate that stands alone is read as
variable (alone : Except Stop Char)

/-- Any number up to U+10FFFF is that of a character, but for the surrogates. -/
def charOf (n : Nat) : Except Stop Char :=
  if h : n.isValidChar then pure (Char.ofNatAux n h) else alone

/-- The character behind a backslash and a `u`, which `cs` begins with. A high
surrogate takes the low one that is escaped right after it, if one is. -/
def unicodeEscape (cs : List Char) : Except Stop (Char × List Char) := do
  let (high, rest) ← unicodeNumber cs
  match rest with
  | '\\' :: 'u' :: more =>
    if isHighSurrogate high && more.length > 4 then
      let (low, rest') ← unicodeNumber ('u' :: more)
      if isLowSurrogate low then pure (← charOf alone (pairSurrogates high low), rest')
      else pure (← charOf alone high, rest)
    else pure (← charOf alone high, rest)
  | _ => pure (← charOf alone high, rest)

/-- The character behind the backslash of `cs`, in the text that `opening` begins. -/
def escaped (opening cs : List Char) : Except Stop (Char × List Char) :=
  match cs.drop 1 with
  | [] => stopAt .unterminatedText opening
  | 'u' :: rest => unicodeEscape alone ('u' :: rest)
  | c :: rest =>
    match simpleEscape? c with
    | some d => pure (d, rest)
    | none => stopAt .escape cs

/-- The rest of the text that `opening` begins, up to its closing quote. -/
def textBody (opening : List Char) : Nat → List Char → Except Stop (List Char × List Char)
  | 0, _ => stopAt .unterminatedText opening
  | _, [] => stopAt .unterminatedText opening
  | fuel + 1, c :: rest =>
    if c = '"' then pure ([], rest)
    else if c = '\\' then do
      let (d, rest) ← escaped alone opening (c :: rest)
      let (cs, rest) ← textBody opening fuel rest
      pure (d :: cs, rest)
    else if c.toNat < 0x20 then stopAt .controlCharacter (c :: rest)
    else do
      let (cs, rest) ← textBody opening fuel rest
      pure (c :: cs, rest)

end

/-! ## Numbers -/

/-- The parts of a number: sign, whole digits, and, if it is no whole number, the
digits behind the point and the exponent. -/
structure Numeral where
  negative : Bool
  whole : List Char
  fraction : Option (List Char × Int)

def digitsOf (cs : List Char) : List Char × List Char := cs.span Char.isDigit

/-- Leading zeros are not read on. -/
def wholeDigits : List Char → List Char × List Char
  | '0' :: rest => (['0'], rest)
  | cs => digitsOf cs

/-- A point counts only with a digit behind it. -/
def fractionDigits : List Char → List Char × List Char
  | '.' :: rest =>
    match digitsOf rest with
    | ([], _) => ([], '.' :: rest)
    | read => read
  | cs => ([], cs)

def exponentSign : List Char → Bool × List Char
  | '-' :: rest => (true, rest)
  | '+' :: rest => (false, rest)
  | cs => (false, cs)

/-- An exponent counts only with a digit in it. -/
def exponentPart (cs : List Char) : Option Int × List Char :=
  match cs with
  | c :: rest =>
    if c = 'e' ∨ c = 'E' then
      let (negative, rest) := exponentSign rest
      match digitsOf rest with
      | ([], _) => (none, cs)
      | (digits, rest) =>
        let n : Int := Decimal.natOfDigits digits
        (some (if negative then -n else n), rest)
    else (none, cs)
  | [] => (none, [])

def numeral? (cs : List Char) : Option (Numeral × List Char) :=
  let (negative, unsigned) := match cs with
    | '-' :: rest => (true, rest)
    | _ => (false, cs)
  match wholeDigits unsigned with
  | ([], _) => none
  | (whole, rest) =>
    let (places, rest) := fractionDigits rest
    let (exponent, rest) := exponentPart rest
    let fraction :=
      if places.isEmpty && exponent.isNone then none else some (places, exponent.getD 0)
    some (⟨negative, whole, fraction⟩, rest)

def Numeral.number (n : Numeral) : Except Stop Number :=
  match n.fraction with
  | none =>
    if n.whole.length ≤ Number.digitLimit then
      let m : Int := Decimal.natOfDigits n.whole
      pure (.int (if n.negative then -m else m))
    else throw (.tooManyDigits n.whole.length)
  | some (places, exponent) =>
    pure (.float (.ofScaled n.negative (Decimal.natOfDigits (n.whole ++ places))
      (exponent - places.length)))

/-- The values spelled by a word. -/
def words : List (List Char × Value) :=
  [(['n', 'u', 'l', 'l'], .null),
   (['t', 'r', 'u', 'e'], .bool true),
   (['f', 'a', 'l', 's', 'e'], .bool false),
   (['N', 'a', 'N'], .num (.float .nan)),
   ("Infinity".toList, .num (.float (.infinite false))),
   ("-Infinity".toList, .num (.float (.infinite true)))]

def word? (cs : List Char) : Option (Value × List Char) :=
  (words.find? fun (w, _) => w.isPrefixOf cs).map fun (w, v) => (v, cs.drop w.length)

def scalar (cs : List Char) : Except Stop (Value × List Char) :=
  match word? cs with
  | some read => pure read
  | none =>
    match numeral? cs with
    | some (n, rest) => do pure (.num (← n.number), rest)
    | none => stopAt .value cs

/-! ## Values -/

section

variable (alone : Except Stop Char)

mutual

def readValue : Nat → List Char → Except Stop (Value × List Char)
  | 0, cs => stopAt .value cs
  | fuel + 1, '"' :: rest => do
    let (cs, rest) ← textBody alone ('"' :: rest) fuel rest
    pure (.str (String.ofList cs), rest)
  | fuel + 1, '[' :: rest =>
    match skipSpace rest with
    | ']' :: rest => pure (.list [], rest)
    | rest => do
      let (items, rest) ← readItems fuel rest
      pure (.list items, rest)
  | fuel + 1, '{' :: rest =>
    match skipSpace rest with
    | '}' :: rest => pure (.obj [], rest)
    | rest => do
      let (entries, rest) ← readEntries fuel rest
      pure (.obj (Entries.ofList entries), rest)
  | _ + 1, cs => scalar cs

/-- Items up to the closing bracket; at least one. -/
def readItems : Nat → List Char → Except Stop (List Value × List Char)
  | 0, cs => stopAt .value cs
  | fuel + 1, cs => do
    let (v, rest) ← readValue fuel cs
    match skipSpace rest with
    | ']' :: rest => pure ([v], rest)
    | ',' :: rest => do
      let (others, rest) ← readItems fuel (skipSpace rest)
      pure (v :: others, rest)
    | rest => stopAt .comma rest

/-- Entries up to the closing brace; at least one. -/
def readEntries : Nat → List Char → Except Stop (List (String × Value) × List Char)
  | 0, cs => stopAt .name cs
  | fuel + 1, '"' :: rest => do
    let (name, rest) ← textBody alone ('"' :: rest) fuel rest
    match skipSpace rest with
    | ':' :: rest => do
      let (v, rest) ← readValue fuel (skipSpace rest)
      let entry := (String.ofList name, v)
      match skipSpace rest with
      | '}' :: rest => pure ([entry], rest)
      | ',' :: rest => do
        let (others, rest) ← readEntries fuel (skipSpace rest)
        pure (entry :: others, rest)
      | rest => stopAt .comma rest
    | rest => stopAt .colon rest
  | _ + 1, cs => stopAt .name cs

end

def readDocument (cs : List Char) : Except Stop Value :=
  match cs with
  | '\ufeff' :: _ => stopAt .byteOrderMark cs
  | _ => do
    let (v, rest) ← readValue alone (2 * cs.length + 1) (skipSpace cs)
    match skipSpace rest with
    | [] => pure v
    | rest => stopAt .extraData rest

end

/-! ## Errors -/

/-- A place in a text; lines and columns count from one. -/
structure Position where
  line : Nat
  column : Nat
  offset : Nat
deriving DecidableEq

inductive ReadError where
  | fault (what : Fault) (place : Position)
  | tooManyDigits (digits : Nat)
  /-- The text may be JSON, but is none that can be read here. -/
  | surrogate
deriving DecidableEq

/-- The place where `left` characters are left of `cs`. -/
def placeOf (cs : List Char) (left : Nat) : Position :=
  let before := cs.take (cs.length - left)
  { line := before.count '\n' + 1
    column := (before.reverse.takeWhile (· != '\n')).length + 1
    offset := before.length }

def ReadError.message : ReadError → String
  | fault what p => s!"{what.message}: line {p.line} column {p.column} (char {p.offset})"
  | tooManyDigits digits => Number.tooManyDigits digits
  | surrogate => "A surrogate stands alone"

def Stop.error (cs : List Char) : Stop → ReadError
  | fault what left => .fault what (placeOf cs left)
  | tooManyDigits digits => .tooManyDigits digits
  | surrogate => .surrogate

def readChars (cs : List Char) : Except ReadError Value := do
  let _ ← (readDocument (pure '\ufffd') cs).mapError (Stop.error cs)
  (readDocument (throw .surrogate) cs).mapError (Stop.error cs)

def read (s : String) : Except ReadError Value := readChars s.toList

end Conformance.Json
