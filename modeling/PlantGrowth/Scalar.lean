/-!
# Scalars

Every length, angle, width and colour channel of a plant is a scalar.  The geometry is written
once over the operations of `Scalar`; a program runs it on binary32 numbers, and a proof may take
any other numbers with these operations, the reals for instance.  The class promises no laws:
binary32 addition is not associative, and none of the definitions relies on it being so.
-/

namespace PlantGrowth

/-- Numbers with the operations that plant geometry needs. -/
class Scalar (α : Type) extends Add α, Sub α, Mul α, Div α, Neg α where
  ofNat : Nat → α
  abs : α → α
  sqrt : α → α
  sin : α → α
  cos : α → α
  tan : α → α
  pow : α → α → α
  /-- Half the circumference of the unit circle. -/
  pi : α
  /-- One with the sign of the argument. -/
  sign : α → α
  /-- The smaller of two numbers; an operand that is not a number loses. -/
  lesser : α → α → α
  /-- The larger of two numbers; an operand that is not a number loses. -/
  greater : α → α → α
  lt : α → α → Bool
  le : α → α → Bool
  isFinite : α → Bool

namespace Scalar

variable {α : Type} [Scalar α]

/-- Numerals in a formula over scalars. -/
scoped instance {n : Nat} : OfNat α n := ⟨Scalar.ofNat n⟩

/-- The quotient of two natural numbers, for the decimal constants of the formulas. -/
def ratio (n d : Nat) : α := Scalar.ofNat n / Scalar.ofNat d

def half : α := ratio 1 2

def tau : α := 2 * Scalar.pi

def radians (degrees : α) : α := degrees * (Scalar.pi / 180)

/-- Keeps `x` between `lo` and `hi`; what compares with neither stays as it is. -/
def clamp (x lo hi : α) : α :=
  if lt x lo then lo else if lt hi x then hi else x

end Scalar

/-- Binary32 numbers: the arithmetic that a program runs on. -/
instance : Scalar Float32 where
  ofNat := Float32.ofNat
  abs := Float32.abs
  sqrt := Float32.sqrt
  sin := Float32.sin
  cos := Float32.cos
  tan := Float32.tan
  pow := Float32.pow
  pi := Float32.ofBits 0x40490fdb
  sign x :=
    if x.isNaN then x else if x.toBits >>> 31 == 0 then 1 else -1
  lesser x y := if x.isNaN then y else if y < x then y else x
  greater x y := if x.isNaN then y else if x < y then y else x
  lt x y := x < y
  le x y := x ≤ y
  isFinite := Float32.isFinite

end PlantGrowth
