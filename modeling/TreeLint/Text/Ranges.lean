/-!
# Ranges of characters

A class of characters is a list of ranges of their numbers. The ranges are in order and apart from
each other, so a look-up can end at the first range that reaches far enough.
-/

namespace TreeLint.Text

/-- Whether a number lies in one of some ranges, which are in order. -/
def inRanges (n : Nat) : List (Nat × Nat) → Bool
  | [] => false
  | (low, high) :: rest => if n ≤ high then decide (low ≤ n) else inRanges n rest

end TreeLint.Text
