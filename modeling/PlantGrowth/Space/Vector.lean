import PlantGrowth.Scalar

/-!
# Vectors

Positions, directions, extents and colours are triples of scalars.  Nothing guards against a
vector without length: normalizing it divides by zero, and what comes out is what the scalars make
of that.
-/

namespace PlantGrowth

open Scalar

/-- A point or direction of space, or a colour in linear light. -/
structure Vec3 (α : Type) where
  x : α
  y : α
  z : α

namespace Vec3

variable {α : Type} [Scalar α]

def zero : Vec3 α := ⟨0, 0, 0⟩

/-- The axis of the stick that a turtle starts along. -/
def unitY : Vec3 α := ⟨0, 1, 0⟩

def unitX : Vec3 α := ⟨1, 0, 0⟩

def unitZ : Vec3 α := ⟨0, 0, 1⟩

/-- The vector with one value in all three places. -/
def splat (s : α) : Vec3 α := ⟨s, s, s⟩

instance : Add (Vec3 α) := ⟨fun v w => ⟨v.x + w.x, v.y + w.y, v.z + w.z⟩⟩

instance : Sub (Vec3 α) := ⟨fun v w => ⟨v.x - w.x, v.y - w.y, v.z - w.z⟩⟩

def scale (v : Vec3 α) (s : α) : Vec3 α := ⟨v.x * s, v.y * s, v.z * s⟩

def dot (v w : Vec3 α) : α := v.x * w.x + v.y * w.y + v.z * w.z

def cross (v w : Vec3 α) : Vec3 α :=
  ⟨v.y * w.z - w.y * v.z, v.z * w.x - w.z * v.x, v.x * w.y - w.x * v.y⟩

def length (v : Vec3 α) : α := Scalar.sqrt (v.dot v)

def normalize (v : Vec3 α) : Vec3 α := v.scale (1 / v.length)

/-- The vector of length one along `v`, if `v` is long enough to have a direction. -/
def normalize? (v : Vec3 α) : Option (Vec3 α) :=
  let inverse := 1 / v.length
  if Scalar.isFinite inverse && Scalar.lt 0 inverse then some (v.scale inverse) else none

/-- The point that lies the part `s` of the way from `v` to `w`. -/
def lerp (v w : Vec3 α) (s : α) : Vec3 α := v.scale (1 - s) + w.scale s

def lesser (v w : Vec3 α) : Vec3 α :=
  ⟨Scalar.lesser v.x w.x, Scalar.lesser v.y w.y, Scalar.lesser v.z w.z⟩

def greater (v w : Vec3 α) : Vec3 α :=
  ⟨Scalar.greater v.x w.x, Scalar.greater v.y w.y, Scalar.greater v.z w.z⟩

def largest (v : Vec3 α) : α := Scalar.greater v.x (Scalar.greater v.y v.z)

/-- Some direction perpendicular to the unit vector `v`. -/
def perpendicular (v : Vec3 α) : Vec3 α :=
  let s := Scalar.sign v.z
  let a := (-1) / (s + v.z)
  ⟨v.x * v.y * a, s + v.y * v.y * a, -v.y⟩

end Vec3

end PlantGrowth
