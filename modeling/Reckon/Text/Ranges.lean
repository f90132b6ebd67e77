/-!
# Ranges of code points

A character class of the Unicode standard is written as a list of closed ranges.
The order of the ranges does not matter to membership.
-/

namespace Reckon.Text

/-- Whether a code point lies in one of the closed ranges. -/
def inRanges (ranges : List (Nat × Nat)) (point : Nat) : Bool :=
  ranges.any (fun range => range.1 ≤ point && point ≤ range.2)

end Reckon.Text
