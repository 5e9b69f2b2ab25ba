/-!
# Ranges of code points

Membership of a character in a class that a table lists by ranges of code points.
-/

namespace ImageFlow.Text

/-- Whether the code point of a character lies in one of the ranges. -/
def inRanges (ranges : List (Nat × Nat)) (c : Char) : Bool :=
  ranges.any fun r => r.1 ≤ c.toNat && c.toNat ≤ r.2

end ImageFlow.Text
