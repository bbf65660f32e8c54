/-!
# Ranges of characters

A class of characters, as the pairs of the first and the last of each range.
-/

namespace Conformance.Text

def isWithin (ranges : List (Nat × Nat)) (c : Char) : Bool :=
  ranges.any fun (lo, hi) => lo ≤ c.toNat && c.toNat ≤ hi

end Conformance.Text
