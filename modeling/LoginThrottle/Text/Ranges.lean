/-!
# Ranges of code points

Tables of characters are lists of ranges of code points with both ends included.

## Main Definitions

* `inRanges`: whether a code point lies in one of some ranges
-/

namespace LoginThrottle

/-- Whether a code point lies in one of some ranges. -/
def inRanges (ranges : List (Nat × Nat)) (codePoint : Nat) : Bool :=
  ranges.any fun range => range.1 ≤ codePoint && codePoint ≤ range.2

end LoginThrottle
