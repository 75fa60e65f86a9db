/-!
# Sets of characters given by code point ranges

The character properties of the Unicode standard are stored as lists of closed
ranges of code points. A character has the property when one range covers it.
-/

namespace KernelLaunch.Text

/-- Closed ranges of code points, first and last. -/
abbrev CharRanges := List (Nat × Nat)

/-- A character lies in one of the ranges. -/
def CharRanges.covers (ranges : CharRanges) (c : Char) : Bool :=
  ranges.any fun range => range.1 ≤ c.toNat && c.toNat ≤ range.2

end KernelLaunch.Text
