import PlantGrowth.Space.Rotation
import PlantGrowth.Taper.Run

/-!
# The turtle

The turtle carries everything that a side branch has to restore: where it is, how it is turned,
the width of the branch, the taper run that it is on, and the anchor that the next segment grows
from.
-/

namespace PlantGrowth

open Scalar

variable {α : Type} [Scalar α]

/-- The number that a builder gives to the end of a segment, for later segments to refer to. -/
abbrev Anchor := Nat

structure Turtle (α : Type) where
  position : Vec3 α
  orientation : Rotation α
  step : α
  width : α
  taper : TaperRun α
  anchor : Option Anchor

namespace Turtle

/-- The turtle at the origin, heading along `y`. -/
def atOrigin (step width : α) : Turtle α :=
  ⟨Vec3.zero, Rotation.identity, step, width, TaperRun.inactive, none⟩

def heading (t : Turtle α) : Vec3 α := t.orientation.apply Vec3.unitY

/-- The turtle turned about an axis of its own space. -/
def rotate (t : Turtle α) (axis : Vec3 α) (angle : α) : Turtle α :=
  { t with orientation := (t.orientation * Rotation.aboutAxis axis angle).normalize }

end Turtle

/-- The saved turtles of the open side branches, the innermost first. -/
abbrev BranchStack (α : Type) := List (Turtle α)

structure Segment (α : Type) where
  start : Vec3 α
  stop : Vec3 α
  orientation : Rotation α
  length : α
  /-- The width at the end. -/
  width : α
  startWidth : α
  /-- The factor by which the segment narrows the branch. -/
  decay : α

namespace Segment

def heading (s : Segment α) : Vec3 α := s.orientation.apply Vec3.unitY

def midpoint (s : Segment α) : Vec3 α := (s.start + s.stop).scale half

end Segment

/-- What becomes of the segments: a builder takes them one by one and may give each end an anchor.
When it is full, no more are drawn. -/
structure Builder (α β : Type) where
  /-- Prepares for a plant that starts at the turtle. -/
  begin : β → Turtle α → β × Option Anchor
  add : β → Segment α → Option Anchor → β × Option Anchor
  full : β → Bool

end PlantGrowth
