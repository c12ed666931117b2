/-!
# Hexadecimal digits

The digits beyond nine are the letters from `a` to `f`, in either case.
-/

namespace PlantGrowth.Text

def hexDigit? (c : Char) : Option Nat :=
  if c.isDigit then some (c.toNat - '0'.toNat)
  else if 'a' ≤ c && c ≤ 'f' then some (c.toNat - 'a'.toNat + 10)
  else if 'A' ≤ c && c ≤ 'F' then some (c.toNat - 'A'.toNat + 10)
  else none

end PlantGrowth.Text
