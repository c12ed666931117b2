/-!
# Ranges of characters

A property of characters that no formula gives is kept as closed ranges of code points, ascending
and apart, in blocks that are short enough to be read.
-/

namespace PlantGrowth.Text

/-- Whether the code point of `c` lies in one of the ranges. -/
def inRanges (ranges : List (Nat × Nat)) (c : Char) : Bool :=
  ranges.any fun r => r.1 ≤ c.toNat && c.toNat ≤ r.2

/-- Whether the code point of `c` lies in a range of one of the blocks. -/
def inBlocks (blocks : List (List (Nat × Nat))) (c : Char) : Bool :=
  blocks.any fun ranges => inRanges ranges c

end PlantGrowth.Text
