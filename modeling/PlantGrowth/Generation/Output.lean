import PlantGrowth.Generation.Request
import PlantGrowth.Geometry.Builder

/-!
# Growing a plant

A generation grows the word of a request, walks over it, and puts together what was built.
Branches are coloured last, by their height within the plant, and can be coloured again without
growing it anew.
-/

namespace PlantGrowth

open Scalar

variable {α σ : Type} [Scalar α]

structure Stats where
  wordLength : Nat
  passes : Nat
  /-- Whether the cap on the word ended the growing. -/
  wordTruncated : Bool
  segments : Nat
  leaves : Nat
  maxDepth : Nat
  rings : Nat
  pivots : Nat
  vertices : Nat
  triangles : Nat
  /-- Whether a cap on the geometry ended the walk. -/
  geometryTruncated : Bool
  deriving DecidableEq, Repr

def Stats.summary (s : Stats) : String :=
  "Segments: " ++ toString s.segments ++ " | Leaves: " ++ toString s.leaves

structure Output (α : Type) where
  geometry : Geometry α
  foliage : Foliage α
  extent : Extent α
  /-- One colour for each instance; the vertices of a tube carry theirs themselves. -/
  branchColors : Array (Vec3 α)
  leafColor : Vec3 α
  stats : Stats
  /-- The seed of the samples, if the generation drew them from one itself. -/
  seed : Option UInt64

namespace Output

/-- The plant with its branches coloured by height, from `base` to `tip`. -/
def recolor (o : Output α) (base tip : Vec3 α) : Output α :=
  match o.geometry with
  | .tube mesh => { o with geometry := .tube (mesh.recolor (Gradient.ofExtent base tip o.extent)) }
  | .instances list => { o with branchColors := list.colors base tip o.extent }

/-- The plant with its leaves shown with another multiplier. -/
def rescale (o : Output α) (multiplier : α) : Output α :=
  { o with foliage := o.foliage.rescale multiplier }

end Output

/-- A plant that has been grown and walked over, before it is put together. -/
structure Generation (α σ : Type) where
  request : Request α
  expansion : Expansion
  tour : Tour α (GeometryBuilder α) σ

namespace Request

def builder (r : Request α) : GeometryBuilder α :=
  match r.mode with
  | .continuous radial => .tube (TubeBuilder.empty radial r.limits.vertices.toNat)
  | .discrete shape => .instances (InstanceBuilder.empty shape r.limits.segments.toNat)

def generation (r : Request α) (source : Source α σ) (s : σ) : Generation α σ :=
  let expansion := r.expansion
  { request := r
    expansion
    tour :=
      Walk.run r.habit Builder.geometry source (Command.ofWord expansion.word) r.builder s }

end Request

namespace Generation

/-- The branches as they were built, without colours. -/
def geometry (g : Generation α σ) : Geometry α := g.tour.walk.builder.geometry

def stats (g : Generation α σ) : Stats :=
  let (rings, pivots, vertices, triangles) :=
    match g.geometry with
    | .tube mesh => (mesh.rings, mesh.pivots, mesh.vertexCount, mesh.triangleCount)
    | .instances _ => (0, 0, 0, 0)
  { wordLength := g.expansion.word.length
    passes := g.expansion.passes
    wordTruncated := g.expansion.truncated
    segments := g.tour.walk.segments
    leaves := g.tour.walk.foliage.count
    maxDepth := g.tour.walk.maxDepth
    rings, pivots, vertices, triangles
    geometryTruncated := g.tour.stoppedEarly }

/-- The plant before its branches are coloured. -/
def plain (g : Generation α σ) : Output α where
  geometry := g.geometry
  foliage := g.tour.walk.foliage
  extent := g.tour.walk.extent
  branchColors := #[]
  leafColor := g.request.palette.leaf
  stats := g.stats
  seed := none

def output (g : Generation α σ) : Output α :=
  g.plain.recolor g.request.palette.base g.request.palette.tip

end Generation

end PlantGrowth
