/-! Sets of characters as ranges of code points. A table lists its ranges in
ascending order; membership does not depend on that. -/
namespace ClassProfile.Text

/-- The code point lies in one of the ranges, ends included. -/
def within (ranges : List (Nat × Nat)) (n : Nat) : Bool :=
  ranges.any fun (first, last) => decide (first ≤ n) && decide (n ≤ last)

/-- The code point is one of `first`, `first + stride`, … up to `last`. -/
def onRun (first last stride n : Nat) : Bool :=
  decide (first ≤ n) && decide (n ≤ last) && (n - first) % stride == 0

end ClassProfile.Text
