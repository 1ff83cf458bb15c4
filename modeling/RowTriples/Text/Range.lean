/-!
# Tables of code points

A property of characters is kept as the increasing list of the intervals of code points that have
it.
-/

namespace RowTriples.Text

/-- Whether a code point lies in one of the intervals, whose ends belong to them. -/
def inRanges (ranges : List (Nat × Nat)) (n : Nat) : Bool :=
  ranges.any fun (low, high) => low ≤ n && n ≤ high

end RowTriples.Text
