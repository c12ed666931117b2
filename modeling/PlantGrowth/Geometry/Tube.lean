import PlantGrowth.Geometry.Gradient
import PlantGrowth.Space.Frame
import PlantGrowth.Turtle.State

/-!
# Tube meshes

A continuous plant is one surface: a ring of vertices at the end of every segment, stitched to the
ring that the segment grows from.  Where the heading bends, a pivot ring of no length is put
between the two.  Rings are numbered in the order in which they come, and the number of a ring is
its anchor; ring `r` of `n` vertices owns the vertices from `r * n` on.
-/

namespace PlantGrowth

open Scalar

variable {α : Type} [Scalar α]

/-- Three vertices, in the order that shows which side of them is outside. -/
structure Triangle where
  a : Nat
  b : Nat
  c : Nat
  deriving DecidableEq, Repr

namespace Triangle

def corners (t : Triangle) : List Nat := [t.a, t.b, t.c]

end Triangle

/-- A surface of triangles.  Colours are either absent or one a vertex. -/
structure TubeMesh (α : Type) where
  radial : Nat
  positions : Array (Vec3 α)
  colors : Array (Vec3 α)
  triangles : Array Triangle
  rings : Nat
  /-- The rings that were put in at bends. -/
  pivots : Nat

namespace TubeMesh

def vertexCount (m : TubeMesh α) : Nat := m.positions.size

def triangleCount (m : TubeMesh α) : Nat := m.triangles.size

def indices (m : TubeMesh α) : List Nat := m.triangles.toList.flatMap Triangle.corners

/-- The same surface with every vertex coloured by its height. -/
def recolor (m : TubeMesh α) (g : Gradient α) : TubeMesh α :=
  { m with colors := m.positions.map fun p => g.colorAt p.y }

/-- Position and colour of vertex `i`, if there is one; it is black before it is coloured. -/
def vertex? (m : TubeMesh α) (i : Nat) : Option (Vec3 α × Vec3 α) :=
  m.positions[i]?.map fun p => (p, m.colors[i]?.getD Vec3.zero)

end TubeMesh

/-- A tube mesh in the making, with the frame of every ring. -/
structure TubeBuilder (α : Type) where
  mesh : TubeMesh α
  frames : Array (RingFrame α)
  maxVertices : Nat

namespace TubeBuilder

/-- The cosine between two headings below which they count as a bend. -/
def bendThreshold : α := ratio 999 1000

/-- The builder with nothing built; a ring has three vertices at least. -/
def empty (radial maxVertices : Nat) : TubeBuilder α :=
  { mesh := ⟨max radial 3, #[], #[], #[], 0, 0⟩, frames := #[], maxVertices }

/-- The frame of the ring behind an anchor. -/
def frame? (t : TubeBuilder α) (anchor : Anchor) : Option (RingFrame α) := t.frames[anchor]?

def ringPoints (n : Nat) (center : Vec3 α) (radius : α) (frame : RingFrame α) : List (Vec3 α) :=
  (List.range n).map fun j => center + (frame.radial j n).scale radius

/-- Adds a ring that is not stitched to anything yet, and gives its number. -/
def pushRing (t : TubeBuilder α) (center : Vec3 α) (radius : α) (frame : RingFrame α) :
    TubeBuilder α × Anchor :=
  let anchor := t.frames.size
  let points := (ringPoints t.mesh.radial center radius frame).toArray
  ({ t with
      mesh := { t.mesh with positions := t.mesh.positions ++ points, rings := t.mesh.rings + 1 }
      frames := t.frames.push frame },
   anchor)

/-- The triangles between ring `p` and ring `q` of `n` vertices each, two for every side. -/
def band (n p q : Nat) : List Triangle :=
  (List.range n).flatMap fun j =>
    let a := p * n + j
    let b := p * n + (j + 1) % n
    let c := q * n + j
    let d := q * n + (j + 1) % n
    [⟨a, d, c⟩, ⟨a, b, d⟩]

/-- Stitches ring `q` to ring `p`. -/
def stitch (t : TubeBuilder α) (p q : Anchor) : TubeBuilder α :=
  { t with
    mesh := { t.mesh with triangles := t.mesh.triangles ++ (band t.mesh.radial p q).toArray } }

/-- Begins a tube with a ring where the turtle stands. -/
def begin (t : TubeBuilder α) (turtle : Turtle α) : TubeBuilder α × Anchor :=
  t.pushRing turtle.position (turtle.width * half) (RingFrame.initial turtle.orientation)

/-- The ring that a segment grows from, with its frame.  An anchor without a ring makes a new
root. -/
def root (t : TubeBuilder α) (s : Segment α) (origin : Option Anchor) :
    TubeBuilder α × Anchor × RingFrame α :=
  match origin.bind fun anchor => (t.frame? anchor).map fun frame => (anchor, frame) with
  | some (anchor, frame) => (t, anchor, frame)
  | none =>
    let frame := RingFrame.initial s.orientation
    let (t', anchor) := t.pushRing s.start (s.startWidth * half) frame
    (t', anchor, frame)

/-- Puts a pivot ring behind ring `anchor` if the segment bends away from it. -/
def bend (t : TubeBuilder α) (s : Segment α) (anchor : Anchor) (frame : RingFrame α) :
    TubeBuilder α × Anchor × RingFrame α :=
  if frame.isAlignedWith s.heading bendThreshold then (t, anchor, frame)
  else
    let turned := frame.transport s.heading
    let (t', pivot) := t.pushRing s.start (s.startWidth * half) turned
    let t'' := t'.stitch anchor pivot
    ({ t'' with mesh := { t''.mesh with pivots := t''.mesh.pivots + 1 } }, pivot, turned)

/-- Adds the ring at the end of a segment, stitched to where the segment grows from. -/
def add (t : TubeBuilder α) (s : Segment α) (origin : Option Anchor) : TubeBuilder α × Anchor :=
  let (t1, anchor, frame) := t.root s origin
  let (t2, before, frame') := t1.bend s anchor frame
  let (t3, last) := t2.pushRing s.stop (s.width * half) (frame'.transport s.heading)
  (t3.stitch before last, last)

def full (t : TubeBuilder α) : Bool := t.maxVertices ≤ t.mesh.vertexCount

end TubeBuilder

def Builder.tube : Builder α (TubeBuilder α) where
  begin t turtle := let (t', anchor) := t.begin turtle; (t', some anchor)
  add t s origin := let (t', anchor) := t.add s origin; (t', some anchor)
  full := TubeBuilder.full

end PlantGrowth
