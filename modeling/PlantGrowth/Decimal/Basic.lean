import PlantGrowth.Binary32

/-!
# Decimals of binary32 numbers

A finite binary32 number is a natural number times a power of two, so its exact value is a
fraction and every question about its decimal digits is one about natural numbers.  This file
selects the digits: the fewest that read back to the number, a given count of significant ones, or
a given count of decimal places; and it selects the binary32 number nearest to a decimal.  How
digits are laid out as text is left to `Decimal.Notation`.
-/

namespace PlantGrowth

/-- The number `digits * 10 ^ exponent`. -/
structure Decimal where
  digits : Nat
  exponent : Int
  deriving DecidableEq, Repr

namespace Decimal

/-- The magnitude `m * 2 ^ q` of a finite binary32 number. -/
structure Dyadic where
  m : Nat
  q : Int
  /-- Whether the gap to the next smaller number is half the gap to the next larger one. -/
  narrowBelow : Bool

def Dyadic.ofBinary32 (x : Binary32) : Dyadic :=
  let e := ((x.bits >>> 23) &&& 0xff).toNat
  let f := (x.bits &&& 0x7fffff).toNat
  if e == 0 then ⟨f, -149, false⟩ else ⟨Nat.pow 2 23 + f, (e : Int) - 150, f == 0 && e > 1⟩

def Dyadic.num (x : Dyadic) : Nat := x.m * Nat.pow 2 x.q.toNat

def Dyadic.den (x : Dyadic) : Nat := Nat.pow 2 (-x.q).toNat

def digitCount (n : Nat) : Nat := (Nat.toDigits 10 n).length

/-- The least `k` with `num / den < 10 ^ k`, for a positive fraction. -/
def magnitude (num den : Nat) : Int :=
  if den ≤ num then digitCount (num / den) else 1 - (digitCount ((den - 1) / num) : Int)

/-- `num / den` in units of `base ^ unit`, rounded to the nearest natural number, a half to
even. -/
def roundIn (base num den : Nat) (unit : Int) : Nat :=
  let a := num * Nat.pow base (-unit).toNat
  let b := den * Nat.pow base unit.toNat
  let q := a / b
  let r := a % b
  if 2 * r < b then q
  else if b < 2 * r then q + 1
  else if q % 2 == 0 then q else q + 1

def compareWith (d : Decimal) (num : Nat) (q : Int) : Ordering :=
  compare (d.digits * Nat.pow 10 d.exponent.toNat * Nat.pow 2 (-q).toNat)
    (num * Nat.pow 2 q.toNat * Nat.pow 10 (-d.exponent).toNat)

/-- Whether `d` lies among the reals that round to `x`: up to half way to either neighbour, the
ends counted in when the significand of `x` is even. -/
def Dyadic.readsBack (x : Dyadic) (d : Decimal) : Bool :=
  let lo := if x.narrowBelow then 4 * x.m - 1 else 4 * x.m - 2
  let hi := 4 * x.m + 2
  let closed := x.m % 2 == 0
  let below := d.compareWith lo (x.q - 2)
  let above := d.compareWith hi (x.q - 2)
  (below == .gt || (closed && below == .eq)) && (above == .lt || (closed && above == .eq))

/-- The neighbour of `x` on the grid of `n` significant digits that reads back to `x`: of two, the
nearer one, and the upper one when both are equally near. -/
def Dyadic.onGrid? (x : Dyadic) (n : Nat) : Option Decimal :=
  let unit := magnitude x.num x.den - n
  let a := x.num * Nat.pow 10 (-unit).toNat
  let b := x.den * Nat.pow 10 unit.toNat
  let down : Decimal := ⟨a / b, unit⟩
  let up : Decimal := ⟨a / b + 1, unit⟩
  match x.readsBack down, x.readsBack up with
  | true, true => some (if 2 * (a % b) < b then down else up)
  | true, false => some down
  | false, true => some up
  | false, false => none

/-- Moves trailing zeros of the digits into the exponent.  Of `fuel` zeros at most. -/
def stripZeros : Nat → Decimal → Decimal
  | 0, d => d
  | fuel + 1, d =>
    if d.digits % 10 == 0 && d.digits != 0 then stripZeros fuel ⟨d.digits / 10, d.exponent + 1⟩
    else d

/-- The same number with no trailing zero among its digits. -/
def normal (d : Decimal) : Decimal :=
  if d.digits == 0 then ⟨0, 0⟩ else stripZeros (digitCount d.digits) d

def Dyadic.exact (x : Dyadic) : Decimal :=
  if 0 ≤ x.q then ⟨x.num, 0⟩ else ⟨x.m * Nat.pow 5 (-x.q).toNat, x.q⟩

/-- The decimal with the fewest digits that reads back to `x`.  Nine digits always suffice. -/
def Dyadic.shortest (x : Dyadic) : Decimal :=
  if x.m == 0 then ⟨0, 0⟩
  else normal (((List.range 9).findSome? fun n => x.onGrid? (n + 1)).getD x.exact)

/-- The value of `x` rounded to `n` significant digits. -/
def Dyadic.significant (x : Dyadic) (n : Nat) : Decimal :=
  if x.m == 0 then ⟨0, 0⟩
  else
    let unit := magnitude x.num x.den - n
    normal ⟨roundIn 10 x.num x.den unit, unit⟩

/-- The value of `x` rounded to `places` decimal places. -/
def Dyadic.fixed (x : Dyadic) (places : Nat) : Decimal :=
  ⟨roundIn 10 x.num x.den (-(places : Int)), -(places : Int)⟩

def ofFloat (x : Float32) : Dyadic := Dyadic.ofBinary32 (Binary32.ofFloat x)

def isSigned (x : Float32) : Bool := (Binary32.ofFloat x).isNegative

/-- The count of binary digits of `n`, none for zero. -/
def bitCount (n : Nat) : Nat := if n == 0 then 0 else n.log2 + 1

/-- The least `k` with `num / den < 2 ^ k`, for a positive fraction. -/
def binaryMagnitude (num den : Nat) : Int :=
  if den ≤ num then bitCount (num / den) else 1 - (bitCount ((den - 1) / num) : Int)

/-- The binary32 number nearest to a positive fraction; of two, the one with an even significand.
The significand has 24 bits where the exponent allows, so that it carries into the exponent by
itself when it is rounded up to the next power of two. -/
def nearest (num den : Nat) : Binary32 :=
  let q := max (binaryMagnitude num den - 24) (-149)
  let pattern := (q + 149).toNat * Nat.pow 2 23 + roundIn 2 num den q
  if pattern < Binary32.infinity.bits.toNat then ⟨UInt32.ofNat pattern⟩ else Binary32.infinity

/-- The binary32 number nearest to `d`.  Powers of ten far outside the range of binary32 are
decided by their size alone. -/
def toBinary32 (d : Decimal) : Binary32 :=
  let top := (digitCount d.digits : Int) + d.exponent
  if d.digits == 0 || top < -60 then ⟨0⟩
  else if 60 < top then Binary32.infinity
  else nearest (d.digits * Nat.pow 10 d.exponent.toNat) (Nat.pow 10 (-d.exponent).toNat)

end Decimal

namespace Binary32

instance : OfScientific Binary32 where
  ofScientific m negative e := Decimal.toBinary32 ⟨m, if negative then -(e : Int) else e⟩

instance {n : Nat} : OfNat Binary32 n := ⟨Decimal.toBinary32 ⟨n, 0⟩⟩

end Binary32

end PlantGrowth
