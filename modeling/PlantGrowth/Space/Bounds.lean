import PlantGrowth.Space.Vector

/-!
# Bounding boxes

A box is kept by its two corners and grows by the points that it has to hold.  A coordinate that
is not a number never enters a box that already has one.  `Extent` is the box of all points seen
so far, of which there may be none.
-/

namespace PlantGrowth

open Scalar

structure Bounds (α : Type) where
  min : Vec3 α
  max : Vec3 α

namespace Bounds

variable {α : Type} [Scalar α]

/-- The box with the corners `a` and `b`, whichever way round they lie. -/
def ofCorners (a b : Vec3 α) : Bounds α := ⟨a.lesser b, a.greater b⟩

def ofPoint (p : Vec3 α) : Bounds α := ⟨p, p⟩

def insert (b : Bounds α) (p : Vec3 α) : Bounds α := ⟨b.min.lesser p, b.max.greater p⟩

def center (b : Bounds α) : Vec3 α := (b.min + b.max).scale half

def size (b : Bounds α) : Vec3 α := b.max - b.min

def longestEdge (b : Bounds α) : α := b.size.largest

end Bounds

/-- The box of the points taken in so far, if there are any. -/
abbrev Extent (α : Type) := Option (Bounds α)

namespace Extent

variable {α : Type} [Scalar α]

def empty : Extent α := none

def insert : Extent α → Vec3 α → Extent α
  | none, p => some (Bounds.ofPoint p)
  | some b, p => some (b.insert p)

end Extent

end PlantGrowth
