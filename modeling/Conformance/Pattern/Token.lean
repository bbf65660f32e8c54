/-!
# Tokens of a regular expression

A pattern is read by tokens: a backslash belongs to the character behind it wherever
it stands, in comments and names too.
-/

namespace Conformance.Pattern

inductive Token where
  | plain (c : Char)
  | escaped (c : Char)
deriving DecidableEq

namespace Token

def chars : Token → List Char
  | plain c => [c]
  | escaped c => ['\\', c]

/-- A backslash at the end has nothing to belong to; it is left over. -/
def ofChars : List Char → List Token × List Char
  | [] => ([], [])
  | c :: rest =>
    if c = '\\' then
      match rest with
      | [] => ([], [c])
      | d :: rest =>
        let (ts, left) := ofChars rest
        (escaped d :: ts, left)
    else
      let (ts, left) := ofChars rest
      (plain c :: ts, left)

/-- The text in front of the first `mark` and the tokens behind it. -/
def splitAt? (mark : Char) (ts : List Token) : Option (List Char × List Token) :=
  match ts.span (· != plain mark) with
  | (text, _ :: rest) => some (text.flatMap chars, rest)
  | (_, []) => none

/-- The text in front of the first `mark`, which must not be empty. -/
def name? (mark : Char) (ts : List Token) : Option (List Char × List Token) :=
  (splitAt? mark ts).filter fun (name, _) => !name.isEmpty

/-- The characters in front, at most `limit` of them, that are plain and satisfy `p`. -/
def spanChars (p : Char → Bool) : Nat → List Token → List Char × List Token
  | limit + 1, plain c :: rest =>
    if p c then
      let (cs, rest) := spanChars p limit rest
      (c :: cs, rest)
    else ([], plain c :: rest)
  | _, ts => ([], ts)

def spanDigits (ts : List Token) : List Char × List Token :=
  spanChars Char.isDigit ts.length ts

end Token

end Conformance.Pattern
