import PlantGrowth.Geometry.Gradient
import PlantGrowth.Space.Placement
import PlantGrowth.Turtle.State

/-!
# Branch instances

A discrete plant is a list of placements of one unit shape, one for each segment.  An instance
remembers the height that its segment starts at, by which it is coloured.
-/

namespace PlantGrowth

open Scalar

variable {α : Type} [Scalar α]

inductive Shape where
  | cylinder
  /-- A flat square, for views from the front. -/
  | cuboid
  deriving DecidableEq, Repr

def Shape.name : Shape → String
  | .cylinder => "Cylinder"
  | .cuboid => "Cuboid"

structure BranchInstance (α : Type) where
  center : Vec3 α
  orientation : Rotation α
  /-- Width, length and width again. -/
  scale : Vec3 α
  startHeight : α
  decay : α

namespace BranchInstance

def ofSegment (s : Segment α) : BranchInstance α :=
  ⟨s.midpoint, s.orientation, ⟨s.width, s.length, s.width⟩, s.start.y, s.decay⟩

def placement (i : BranchInstance α) : Placement α := ⟨i.scale, i.orientation, i.center⟩

end BranchInstance

/-- All instances of a plant, in the order of their segments. -/
structure BranchInstances (α : Type) where
  shape : Shape
  list : Array (BranchInstance α)

namespace BranchInstances

def count (b : BranchInstances α) : Nat := b.list.size

/-- One colour for each instance, by the height it starts at. -/
def colors (b : BranchInstances α) (base tip : Vec3 α) (extent : Extent α) : Array (Vec3 α) :=
  let g := Gradient.ofExtent base tip extent
  b.list.map fun i => g.colorAt i.startHeight

end BranchInstances

structure InstanceBuilder (α : Type) where
  instances : BranchInstances α
  maxSegments : Nat

namespace InstanceBuilder

def empty (shape : Shape) (maxSegments : Nat) : InstanceBuilder α := ⟨⟨shape, #[]⟩, maxSegments⟩

def add (b : InstanceBuilder α) (s : Segment α) : InstanceBuilder α :=
  { b with instances := { b.instances with list := b.instances.list.push (.ofSegment s) } }

def full (b : InstanceBuilder α) : Bool := b.maxSegments ≤ b.instances.count

end InstanceBuilder

/-- Segments as instances, which grow from nowhere. -/
def Builder.instances : Builder α (InstanceBuilder α) where
  begin b _ := (b, none)
  add b s _ := (b.add s, none)
  full := InstanceBuilder.full

end PlantGrowth
