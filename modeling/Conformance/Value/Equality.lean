import Conformance.Value.Kind
/-!
# Equality of values

Values are the same when they have the same kind and agree part by part: numbers
by exact value, arrays position by position, objects by their keys whatever the
order. A foreign value is the same as itself alone.
-/

namespace Conformance.Value

mutual

def same : Value → Value → Bool
  | .null, .null => true
  | .bool a, .bool b => a == b
  | .num a, .num b => a.same b
  | .str a, .str b => a == b
  | .arr _ xs, .arr _ ys => sameItems xs ys
  | .obj xs, .obj ys => ys.all (fun (k, _) => Entries.has k xs) && sameEntries xs ys
  | .foreign i _, .foreign j _ => i == j
  | _, _ => false

def sameItems : List Value → List Value → Bool
  | [], [] => true
  | x :: xs, y :: ys => same x y && sameItems xs ys
  | _, _ => false

/-- Every entry has its equal among `ys`. -/
def sameEntries : List (String × Value) → List (String × Value) → Bool
  | [], _ => true
  | (k, x) :: xs, ys =>
    (match ys.lookup k with
      | some y => same x y
      | none => false) && sameEntries xs ys

end

end Conformance.Value
