import PlantGrowth.Decimal.Basic

/-!
# Numbers in messages and configuration files

A number is written with the fewest digits that read back to it: positionally from `1e-4` up to
`1e16`, always with a digit after the point, and otherwise as digits and an exponent.  Messages
that ask for a fixed count of places write the rounded value with exactly that many.
-/

namespace PlantGrowth

namespace Decimal

/-- The decimal digits of `n`, at least `width` of them. -/
def padded (width n : Nat) : List Char :=
  let ds := Nat.toDigits 10 n
  List.replicate (width - ds.length) '0' ++ ds

/-- The digits of a decimal with the point set where the exponent says, and one digit at least on
both sides of it. -/
def positional (d : Decimal) : List Char :=
  if 0 ≤ d.exponent then
    Nat.toDigits 10 (d.digits * Nat.pow 10 d.exponent.toNat) ++ ['.', '0']
  else
    let places := d.exponent.natAbs
    let ds := padded (places + 1) d.digits
    ds.take (ds.length - places) ++ '.' :: ds.drop (ds.length - places)

/-- One digit, the others after a point if there are others, and the exponent of the first digit. -/
def scientific (d : Decimal) : List Char :=
  let ds := Nat.toDigits 10 d.digits
  let lead := d.exponent + ((ds.length : Int) - 1)
  let mantissa :=
    match ds with
    | first :: second :: rest => first :: '.' :: second :: rest
    | short => short
  mantissa ++ 'e' :: (toString lead).toList

def layout (d : Decimal) : List Char :=
  let top := (digitCount d.digits : Int) + d.exponent
  if d.digits == 0 then ['0', '.', '0']
  else if -4 < top && top ≤ 16 then d.positional
  else d.scientific

end Decimal

def Binary32.text (x : Binary32) : String :=
  (if x.isNegative then "-" else "") ++
    if x.isNaN then "NaN"
    else if x.isFinite then String.ofList (Decimal.Dyadic.ofBinary32 x).shortest.layout
    else "inf"

namespace Decimal

/-- The text of a binary32 number in a message, where what is not a number has no sign. -/
def text (x : Float32) : String := if x.isNaN then "NaN" else (Binary32.ofFloat x).text

/-- The text of a binary32 number with a fixed count of places. -/
def fixedText (x : Float32) (places : Nat) : String :=
  if x.isNaN then "NaN"
  else
    let sign := if isSigned x then "-" else ""
    if x.isFinite then
      let d := (ofFloat x).fixed places
      let ds := padded (places + 1) d.digits
      let whole := ds.take (ds.length - places)
      let part := ds.drop (ds.length - places)
      sign ++ String.ofList (if places == 0 then whole else whole ++ '.' :: part)
    else sign ++ "inf"

end Decimal

end PlantGrowth
