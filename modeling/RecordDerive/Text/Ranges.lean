/-!
# Ranges of characters

Properties of characters outside ASCII are given by tables of ranges.
-/

namespace RecordDerive.Text

/-- Whether the number of a character lies in one of some ranges, both ends
included. -/
def inRanges (ranges : List (Nat × Nat)) (c : Char) : Bool :=
  ranges.any fun range => range.1 ≤ c.toNat && c.toNat ≤ range.2

end RecordDerive.Text
