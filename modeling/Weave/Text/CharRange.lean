import Weave.Text.Basic

/-!
# Sets of characters by ranges

A set of characters beyond ASCII is written as the list of its ranges of code points in ascending
order; `inRanges` looks a code point up in such a list.
-/

namespace Weave.Text

/-- Whether a code point lies in one of the ranges, which are inclusive and ascending. -/
def inRanges : List (Nat × Nat) → Nat → Bool
  | [], _ => false
  | (low, high) :: ranges, n => low ≤ n && (n ≤ high || inRanges ranges n)

end Weave.Text
