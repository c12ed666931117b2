import PlantGrowth.Space.Bounds

/-!
# Camera fitting

A plant is shown at a scale of its own and looked at from a distance at which all of it can be
seen.  The distance is the one at which the longest edge of the box just fills the view, and half
as much again.
-/

namespace PlantGrowth

open Scalar

variable {α : Type} [Scalar α]

/-- The scale at which a box is `targetHeight` high.  It is one where scaling is off, and where
there is no height to scale. -/
def Extent.displayScale (extent : Extent α) (enabled : Bool) (targetHeight : α) : α :=
  match extent with
  | none => 1
  | some b => if enabled && Scalar.lt 0 b.size.y then targetHeight / b.size.y else 1

structure CameraFit (α : Type) where
  target : Vec3 α
  distance : α
  /-- The distance beyond which nothing is shown. -/
  far : α

namespace CameraFit

/-- The least distance beyond which nothing is shown. -/
def minFar : α := 2000

/-- How much farther away than needed the camera is. -/
def padding : α := ratio 3 2

/-- The camera for a box shown at a scale, with a vertical angle of view in radians. -/
def ofBounds (b : Bounds α) (scale fieldOfView : α) : CameraFit α :=
  let edge := b.longestEdge * scale
  let distance := Scalar.abs (edge / 2 / Scalar.tan (fieldOfView / 2)) * padding
  ⟨b.center.scale scale, distance, Scalar.greater minFar (distance * 5)⟩

/-- The position in front of the plant, as high as its middle. -/
def front (f : CameraFit α) : Vec3 α := ⟨0, f.target.y, f.distance⟩

/-- The position that looks at the target from the side that `current` looked at `previous` from. -/
def reframe (f : CameraFit α) (current previous : Vec3 α) : Vec3 α :=
  f.target + (((current - previous).normalize?).getD Vec3.unitZ).scale f.distance

end CameraFit

end PlantGrowth
