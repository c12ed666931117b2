import PlantGrowth.Space.Rotation

/-!
# Placements

A unit shape is put into the scene by stretching it along its own axes, turning it and moving it.
The matrix of that map is listed column by column, four entries a column.
-/

namespace PlantGrowth

open Scalar

/-- Stretch, turn, move: how a unit shape is put into the scene. -/
structure Placement (α : Type) where
  scale : Vec3 α
  rotation : Rotation α
  position : Vec3 α

namespace Placement

variable {α : Type} [Scalar α]

/-- The sixteen entries of the map, column by column. -/
def matrix (p : Placement α) : List α :=
  let q := p.rotation
  let x2 := q.x + q.x
  let y2 := q.y + q.y
  let z2 := q.z + q.z
  let xx := q.x * x2
  let xy := q.x * y2
  let xz := q.x * z2
  let yy := q.y * y2
  let yz := q.y * z2
  let zz := q.z * z2
  let wx := q.w * x2
  let wy := q.w * y2
  let wz := q.w * z2
  let s := p.scale
  [s.x * (1 - (yy + zz)), s.x * (xy + wz), s.x * (xz - wy), 0,
   s.y * (xy - wz), s.y * (1 - (xx + zz)), s.y * (yz + wx), 0,
   s.z * (xz + wy), s.z * (yz - wx), s.z * (1 - (xx + yy)), 0,
   p.position.x, p.position.y, p.position.z, 1]

end Placement

end PlantGrowth
