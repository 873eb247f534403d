/-!
# Ranges of characters

Sets of characters as lists of ranges of code points.
-/

namespace TableScript.Text

/-- Whether a code point lies in one of some ranges. -/
def inRanges (ranges : List (Nat × Nat)) (n : Nat) : Bool :=
  ranges.any fun (low, high) => low ≤ n && n ≤ high

end TableScript.Text
