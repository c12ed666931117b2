import PlantGrowth.Space.Rotation

/-!
# Ring frames

A ring of a tube lies across its `forward` direction, and `axis` is the direction of its first
vertex.  The frame of the next ring is carried over by the shortest rotation between the two
forward directions, so that the polygon does not twist along a bent branch.
-/

namespace PlantGrowth

open Scalar

/-- The placement of one ring: its normal and the direction of its first vertex. -/
structure RingFrame (α : Type) where
  forward : Vec3 α
  axis : Vec3 α

namespace RingFrame

variable {α : Type} [Scalar α]

/-- The frame of a ring with nothing before it, in the orientation of the turtle. -/
def initial (q : Rotation α) : RingFrame α :=
  ⟨(q.apply Vec3.unitY).normalize, (q.apply Vec3.unitX).normalize⟩

/-- The frame of the next ring along `forward`. -/
def transport (f : RingFrame α) (forward : Vec3 α) : RingFrame α :=
  let next := forward.normalize
  ⟨next, ((Rotation.shortestArc f.forward next).apply f.axis).normalize⟩

/-- The second direction in the plane of the ring. -/
def binormal (f : RingFrame α) : Vec3 α := (f.forward.cross f.axis).normalize

/-- The direction from the centre to vertex `j` of a ring of `n`. -/
def radial (f : RingFrame α) (j n : Nat) : Vec3 α :=
  let angle := Scalar.ofNat j / Scalar.ofNat n * tau
  f.axis.scale (Scalar.cos angle) + f.binormal.scale (Scalar.sin angle)

/-- Whether `forward` keeps to the direction of the ring, up to the cosine `threshold`. -/
def isAlignedWith (f : RingFrame α) (forward : Vec3 α) (threshold : α) : Bool :=
  Scalar.le threshold (f.forward.dot forward.normalize)

end RingFrame

end PlantGrowth
