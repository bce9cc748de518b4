/-!
# Ranges of code points

Properties of characters, given by the code points that have them. A table lists ranges with both
ends included, by increasing code.
-/

set_option autoImplicit false

namespace ConfigBinding.Text

/-- Code points, as ranges with both ends included. -/
abbrev CodeRanges :=
  List (Nat × Nat)

/-- Whether one of the ranges holds the code point of a character. -/
def CodeRanges.holds (ranges : CodeRanges) (c : Char) : Bool :=
  ranges.any fun r => r.1 ≤ c.toNat && c.toNat ≤ r.2

end ConfigBinding.Text
