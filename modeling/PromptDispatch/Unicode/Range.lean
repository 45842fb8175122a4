/-!
# Sets of characters as sorted ranges

A character class of the Unicode standard is written down as the sorted list of
its maximal ranges of code points.  Membership walks the list and stops at the
first range that begins beyond the character.
-/

namespace PromptDispatch.Unicode

/-- Whether a code point lies in one of the sorted, disjoint ranges. -/
def inRanges : List (Nat × Nat) → Nat → Bool
  | [], _ => false
  | (lo, hi) :: rest, n => if n < lo then false else n ≤ hi || inRanges rest n

end PromptDispatch.Unicode
