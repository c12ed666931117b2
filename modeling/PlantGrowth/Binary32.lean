/-!
# Binary32 numbers as patterns

A number that is read from a text or written to one is kept as its bit pattern: a sign, eight bits
of exponent and 23 bits of significand.  The arithmetic of the machine knows a single value that
is not a number; a pattern keeps its sign, and a file that says `-NaN` is written back as it was.
-/

namespace PlantGrowth

/-- A binary32 number by its bit pattern. -/
structure Binary32 where
  bits : UInt32
  deriving Repr

namespace Binary32

def infinity : Binary32 := ⟨0x7f800000⟩

/-- What is not a number, without a minus. -/
def notANumber : Binary32 := ⟨0x7fc00000⟩

def magnitude (x : Binary32) : UInt32 := x.bits &&& 0x7fffffff

def isNegative (x : Binary32) : Bool := x.bits >>> 31 == 1

def isNaN (x : Binary32) : Bool := infinity.bits < x.magnitude

def isFinite (x : Binary32) : Bool := x.magnitude < infinity.bits

instance : Neg Binary32 := ⟨fun x => ⟨x.bits ^^^ 0x80000000⟩⟩

/-- Equality of numbers: zeros are equal whatever their signs, and what is not a number is equal
to nothing. -/
instance : BEq Binary32 where
  beq x y :=
    !x.isNaN && !y.isNaN && (x.bits == y.bits || (x.magnitude == 0 && y.magnitude == 0))

def toFloat (x : Binary32) : Float32 := Float32.ofBits x.bits

def ofFloat (x : Float32) : Binary32 := ⟨x.toBits⟩

end Binary32

end PlantGrowth
