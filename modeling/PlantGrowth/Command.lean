import PlantGrowth.Space.Vector

/-!
# Turtle commands

Every symbol of a grown word is a command to the turtle.  Symbols that mean nothing to it are kept
as `noop`: they only served the grammar.
-/

namespace PlantGrowth

/-- The axes of the turtle's own space that it can turn about. -/
inductive Axis where
  | yaw
  | pitch
  | roll
  deriving DecidableEq, Repr

/-- The direction of an axis in the turtle's own space, in which it heads along `y`. -/
def Axis.direction {α : Type} [Scalar α] : Axis → Vec3 α
  | .yaw => Vec3.unitZ
  | .pitch => Vec3.unitX
  | .roll => Vec3.unitY

inductive Command where
  | forward
  | leaf
  /-- Turn about an axis by the plant's angle, one way or the other. -/
  | turn (axis : Axis) (positive : Bool)
  | turnAround
  | taperMark
  | push
  | pop
  | noop
  deriving DecidableEq, Repr

namespace Command

def ofSymbol : Char → Command
  | 'F' | 'G' => .forward
  | 'L' | 'P' => .leaf
  | '+' => .turn .yaw true
  | '-' => .turn .yaw false
  | '&' => .turn .pitch true
  | '^' => .turn .pitch false
  | '\\' => .turn .roll true
  | '/' => .turn .roll false
  | '|' => .turnAround
  | '!' => .taperMark
  | '[' => .push
  | ']' => .pop
  | _ => .noop

def ofWord (word : List Char) : List Command := word.map ofSymbol

end Command

end PlantGrowth
