/-!
# Ranges of characters

A class of characters is given by a table: the ranges of its code points in increasing order.
-/

namespace Backfill.Text

/-- Whether a character lies in one of some ranges. -/
def inRanges (ranges : List (Nat × Nat)) (c : Char) : Bool :=
  ranges.any fun (first, last) => first ≤ c.toNat && c.toNat ≤ last

end Backfill.Text
