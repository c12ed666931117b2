import PlantGrowth.Geometry.Instances
import PlantGrowth.Geometry.Tube

/-!
# Geometry of either kind

What a plant is built of is either one tube or a list of instances.  The builder of either kind
passes everything on to the builder of its kind.
-/

namespace PlantGrowth

variable {α : Type} [Scalar α]

inductive Geometry (α : Type) where
  | tube (mesh : TubeMesh α)
  | instances (list : BranchInstances α)

inductive GeometryBuilder (α : Type) where
  | tube (builder : TubeBuilder α)
  | instances (builder : InstanceBuilder α)

namespace GeometryBuilder

def begin (turtle : Turtle α) : GeometryBuilder α → GeometryBuilder α × Option Anchor
  | tube b => let (b', anchor) := Builder.tube.begin b turtle; (tube b', anchor)
  | instances b => let (b', anchor) := Builder.instances.begin b turtle; (instances b', anchor)

def add (s : Segment α) (origin : Option Anchor) :
    GeometryBuilder α → GeometryBuilder α × Option Anchor
  | tube b => let (b', anchor) := Builder.tube.add b s origin; (tube b', anchor)
  | instances b => let (b', anchor) := Builder.instances.add b s origin; (instances b', anchor)

def full : GeometryBuilder α → Bool
  | tube b => b.full
  | instances b => b.full

def geometry : GeometryBuilder α → Geometry α
  | tube b => .tube b.mesh
  | instances b => .instances b.instances

end GeometryBuilder

/-- Segments as geometry of the kind that the builder is of. -/
def Builder.geometry : Builder α (GeometryBuilder α) where
  begin b turtle := b.begin turtle
  add b s origin := b.add s origin
  full := GeometryBuilder.full

end PlantGrowth
