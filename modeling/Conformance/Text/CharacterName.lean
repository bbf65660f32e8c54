import Conformance.Text.Hex
import Conformance.Text.CharacterName.AncientScripts
import Conformance.Text.CharacterName.EarlyAlphabets
import Conformance.Text.CharacterName.EastAsian
import Conformance.Text.CharacterName.Further
import Conformance.Text.CharacterName.LaterAlphabets
import Conformance.Text.CharacterName.Pictographs
import Conformance.Text.CharacterName.Symbols
/-!
# Names of characters

The character with a given Unicode 14.0 name. Ideographs are named by their number,
Hangul syllables by their sounds, variation selectors by counting; all others stand in
tables of runs. Small letters count as capitals, but not in the names of the unified
ideographs and of the syllables.
-/

namespace Conformance.Text.CharacterName

/-! ## Runs -/

/-- What has been cut off the end of a run: the word and the name in the making, and
the names behind them, each with the number of words that it takes over. -/
structure Cut where
  word : List Char
  words : List (List Char)
  names : List (Nat × List (List Char))

def Cut.step (c : Char) (s : Cut) : Cut :=
  if c.isLower then ⟨[], [], (c.toNat - 'a'.toNat, s.word :: s.words) :: s.names⟩
  else if c = ' ' then ⟨[], s.word :: s.words, s.names⟩
  else ⟨c :: s.word, s.words, s.names⟩

def cut (cs : List Char) : Cut := cs.foldr Cut.step ⟨[], [], []⟩

/-- The words of a text without small letters. -/
def wordsOf (cs : List Char) : List (List Char) :=
  let s := cut cs
  s.word :: s.words

/-- Where a name stands in a run, from `position` on. -/
def find (name : List (List Char)) (position : Nat) (previous : List (List Char)) :
    List (Nat × List (List Char)) → Option Nat
  | [] => none
  | (kept, further) :: rest =>
    let current := previous.take kept ++ further
    if current = name then some position else find name (position + 1) current rest

def findInRuns (name : List (List Char)) (runs : List (Nat × String)) : Option Nat :=
  runs.findSome? fun (first, names) =>
    find name first [] (cut (names.toList.filter (· != '\n'))).names

def runs : List (List (Nat × String)) :=
  [earlyAlphabets, laterAlphabets, symbols, eastAsian, ancientScripts, pictographs]

/-! ## Names that count -/

def isCapitalHex (c : Char) : Bool := c.isDigit || ('A' ≤ c && c ≤ 'F')

/-- A number in four or five capital hexadecimal digits. -/
def ideographNumber? (digits : List Char) : Option Nat :=
  if (digits.length = 4 || digits.length = 5) && digits.all isCapitalHex then hexNumber? digits
  else none

def unifiedRanges : List (Nat × Nat) :=
  [(0x3400, 0x4dbf), (0x4e00, 0x9fff), (0x20000, 0x2a6df), (0x2a700, 0x2b738),
   (0x2b740, 0x2b81d), (0x2b820, 0x2cea1), (0x2ceb0, 0x2ebe0), (0x30000, 0x3134a)]

/-- The names that end in the number of their character. -/
def numberedRanges : List (String × List (Nat × Nat)) :=
  [("CJK COMPATIBILITY IDEOGRAPH-", [(0xf900, 0xfa6d), (0xfa70, 0xfad9), (0x2f800, 0x2fa1d)]),
   ("KHITAN SMALL SCRIPT CHARACTER-", [(0x18b00, 0x18cd5)]),
   ("NUSHU CHARACTER-", [(0x1b170, 0x1b2fb)])]

def isAmong (ranges : List (Nat × Nat)) (n : Nat) : Bool :=
  ranges.any fun (lo, hi) => lo ≤ n && n ≤ hi

def unified? (digits : List Char) : Option Nat :=
  (ideographNumber? digits).filter (isAmong unifiedRanges)

/-- These numbers have no zeros in front. -/
def numbered? (name : List Char) : Option Nat :=
  numberedRanges.findSome? fun (front, ranges) =>
    (front.toList.isPrefixOf? name).bind fun digits =>
      (ideographNumber? digits).filter fun n =>
        isAmong ranges n && digits.head? != some '0'

/-- There are 256 variation selectors, the first sixteen apart from the others. -/
def selector? (name : List Char) : Option Nat :=
  let digits := ["VARIATION SELECTOR-", "VS"].findSome? fun front =>
    front.toList.isPrefixOf? name
  ((List.range 256).find? fun i => digits = some (Nat.toDigits 10 (i + 1))).map fun i =>
    if i < 16 then 0xfe00 + i else 0xe0100 + (i - 16)

/-! ## Hangul syllables -/

def leadingSounds : List String :=
  ["G", "GG", "N", "D", "DD", "R", "M", "B", "BB", "S", "SS", "", "J", "JJ", "C", "K", "T", "P", "H"]

def middleSounds : List String :=
  ["A", "AE", "YA", "YAE", "EO", "E", "YEO", "YE", "O", "WA", "WAE", "OE", "YO", "U", "WEO", "WE",
   "WI", "YU", "EU", "YI", "I"]

def finalSounds : List String :=
  ["", "G", "GG", "GS", "N", "NJ", "NH", "D", "L", "LG", "LM", "LB", "LS", "LT", "LP", "LH", "M",
   "B", "BS", "S", "SS", "NG", "J", "C", "K", "T", "P", "H"]

/-- The longest sound in front, by its position, and what stands behind it. -/
def longestSound (sounds : List String) (cs : List Char) : Option (Nat × List Char) :=
  let fitting := sounds.zipIdx.filterMap fun (sound, i) =>
    (sound.toList.isPrefixOf? cs).map fun rest => (i, rest)
  fitting.foldl (fun best next => match best with
    | some (_, rest) => if next.2.length < rest.length then some next else best
    | none => some next) none

def hangul? (cs : List Char) : Option Nat := do
  let (l, cs) ← longestSound leadingSounds cs
  let (m, cs) ← longestSound middleSounds cs
  let (f, cs) ← longestSound finalSounds cs
  if cs.isEmpty then some (0xac00 + (l * 21 + m) * 28 + f) else none

/-! ## Names -/

/-- The number of the character with that name. -/
def named? (name : List Char) : Option Nat :=
  match "HANGUL SYLLABLE ".toList.isPrefixOf? name with
  | some sounds => hangul? sounds
  | none =>
    match "CJK UNIFIED IDEOGRAPH-".toList.isPrefixOf? name with
    | some digits => unified? digits
    | none =>
      let capital := name.map Char.toUpper
      furtherNames.lookup (String.ofList capital) <|> numbered? capital <|> selector? capital <|>
        runs.findSome? (findInRuns (wordsOf capital))

end Conformance.Text.CharacterName
