/-!
# Tables of code points

A class of characters written down as the closed ranges of its code points.

## Main definitions

* `CodeRanges`: a list of closed ranges
* `CodeRanges.contains`: membership of a character
-/

namespace Conformance.Text

/-- Closed ranges of code points, first and last. -/
abbrev CodeRanges := List (Nat × Nat)

namespace CodeRanges

/-- The character's code point lies in one of the ranges. -/
def contains (ranges : CodeRanges) (c : Char) : Bool :=
  ranges.any fun r => Nat.ble r.1 c.toNat && Nat.ble c.toNat r.2

end CodeRanges

end Conformance.Text
