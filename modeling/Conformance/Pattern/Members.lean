import Conformance.Pattern.Escape
/-!
# Sets

The members of a set stand between brackets: characters, classes, and ranges whose
ends are characters in order. A closing bracket in front is a member, a dash at either
end too.
-/

namespace Conformance.Pattern

/-- A member, with its number if it is a character. -/
def member? : List Token → Option (Option Nat × List Token)
  | [] => none
  | .escaped c :: rest => setCharacter? c rest
  | .plain c :: rest => some (some c.toNat, rest)

/-- What stands behind the members; each step takes a token, so their number is fuel
enough. -/
def behindMembers? : Nat → Bool → List Token → Option (List Token)
  | 0, _, _ => none
  | fuel + 1, isFirst, ts =>
    match ts, isFirst with
    | .plain ']' :: rest, false => some rest
    | ts, _ =>
      match member? ts with
      | none => none
      | some (_, .plain '-' :: .plain ']' :: rest) => some rest
      | some (low, .plain '-' :: rest) =>
        match low, member? rest with
        | some low, some (some high, rest) =>
          if low ≤ high then behindMembers? fuel false rest else none
        | _, _ => none
      | some (_, rest) => behindMembers? fuel false rest

/-- What stands behind a set whose bracket is open; it may be turned around. -/
def behindSet? (ts : List Token) : Option (List Token) :=
  match ts with
  | .plain '^' :: rest => behindMembers? ts.length true rest
  | _ => behindMembers? (ts.length + 1) true ts

end Conformance.Pattern
