import PlantGrowth.Space.Vector

/-!
# Rotations

A rotation is a quaternion.  `compose q r` turns by `r` first and then by `q`, so turning a turtle
about one of its own axes multiplies on the right.  `apply` assumes a unit quaternion and does not
check for one.
-/

namespace PlantGrowth

open Scalar

/-- A rotation of space: the quaternion with vector part `(x, y, z)` and scalar part `w`. -/
structure Rotation (α : Type) where
  x : α
  y : α
  z : α
  w : α

namespace Rotation

variable {α : Type} [Scalar α]

def identity : Rotation α := ⟨0, 0, 0, 1⟩

/-- The rotation by `angle` about the unit vector `axis`. -/
def aboutAxis (axis : Vec3 α) (angle : α) : Rotation α :=
  let s := Scalar.sin (angle * half)
  ⟨axis.x * s, axis.y * s, axis.z * s, Scalar.cos (angle * half)⟩

def aboutX (angle : α) : Rotation α :=
  ⟨Scalar.sin (angle * half), 0, 0, Scalar.cos (angle * half)⟩

def aboutY (angle : α) : Rotation α :=
  ⟨0, Scalar.sin (angle * half), 0, Scalar.cos (angle * half)⟩

/-- First `r`, then `q`. -/
def compose (q r : Rotation α) : Rotation α :=
  ⟨(q.w * r.x + q.x * r.w) + (q.y * r.z - q.z * r.y),
   (q.w * r.y - q.x * r.z) + (q.y * r.w + q.z * r.x),
   (q.w * r.z + q.x * r.y) + (q.z * r.w - q.y * r.x),
   (q.w * r.w - q.x * r.x) + (-(q.y * r.y) - q.z * r.z)⟩

instance : Mul (Rotation α) := ⟨compose⟩

def normSq (q : Rotation α) : α := (q.x * q.x + q.z * q.z) + (q.y * q.y + q.w * q.w)

def normalize (q : Rotation α) : Rotation α :=
  let n := Scalar.sqrt q.normSq
  ⟨q.x / n, q.y / n, q.z / n, q.w / n⟩

def apply (q : Rotation α) (v : Vec3 α) : Vec3 α :=
  let b : Vec3 α := ⟨q.x, q.y, q.z⟩
  v.scale (q.w * q.w - b.dot b) + b.scale (v.dot b * 2) + (b.cross v).scale (q.w * 2)

/-- How near to one the cosine between two directions counts as parallel. -/
def parallelBound : α := 1 - 2 * ratio 1 8388608

/-- The rotation that takes the unit vector `a` to the unit vector `b` by the shortest way.
Opposite vectors turn by a half turn about some perpendicular. -/
def arcBetween (a b : Vec3 α) : Rotation α :=
  let d := a.dot b
  if Scalar.lt parallelBound d then identity
  else if Scalar.lt d (-parallelBound) then aboutAxis a.perpendicular Scalar.pi
  else
    let c := a.cross b
    normalize ⟨c.x, c.y, c.z, 1 + d⟩

/-- The shortest rotation from the direction of `a` to the direction of `b`. -/
def shortestArc (a b : Vec3 α) : Rotation α := arcBetween a.normalize b.normalize

end Rotation

end PlantGrowth
