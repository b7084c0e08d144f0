/-! Sets of characters as ranges of code points. -/
namespace CloudApi.Text

/-- Whether one of the ranges holds a code point; both ends belong to a range. -/
def inRanges (ranges : List (Nat × Nat)) (n : Nat) : Bool :=
  ranges.any fun (low, high) => low ≤ n && n ≤ high

end CloudApi.Text
