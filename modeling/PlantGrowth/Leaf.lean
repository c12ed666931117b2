import PlantGrowth.Chance.Source
import PlantGrowth.Space.Placement
import PlantGrowth.Taper.Scan

/-!
# Leaves

A leaf stays where the turtle stood, turned about two axes by the luck of two samples.  Leaves can
be rescaled after the plant is grown: each keeps the transform it was placed with, and a
multiplier gives the one it is shown with.
-/

namespace PlantGrowth

open Scalar

variable {α : Type} [Scalar α]

/-- Where a leaf is, how it is turned and how large it is. -/
structure LeafTransform (α : Type) where
  position : Vec3 α
  rotation : Rotation α
  scale : α

namespace LeafTransform

/-- The leaf of step length `step` at a place, with a twist by two samples: about `x`, then about
`y`. -/
def twisted (step : α) (position : Vec3 α) (orientation : Rotation α) (first second : α) :
    LeafTransform α :=
  ⟨position, orientation * (Rotation.aboutX first * Rotation.aboutY second), step * half⟩

def rescaled (leaf : LeafTransform α) (multiplier : α) : LeafTransform α :=
  { leaf with scale := leaf.scale * multiplier }

def placement (leaf : LeafTransform α) : Placement α :=
  ⟨Vec3.splat leaf.scale, leaf.rotation, leaf.position⟩

end LeafTransform

/-- A leaf as it was placed and as it is shown. -/
structure Leaf (α : Type) where
  base : LeafTransform α
  current : LeafTransform α

/-- The leaf with the given base, shown with a multiplier. -/
def Leaf.scaled (base : LeafTransform α) (multiplier : α) : Leaf α := ⟨base, base.rescaled multiplier⟩

/-- The leaves of a plant and the multiplier that they are shown with. -/
structure Foliage (α : Type) where
  leaves : Array (Leaf α)
  multiplier : α

namespace Foliage

def empty (multiplier : α) : Foliage α := ⟨#[], multiplier⟩

/-- One more leaf, shown with the current multiplier. -/
def push (f : Foliage α) (base : LeafTransform α) : Foliage α :=
  { f with leaves := f.leaves.push (Leaf.scaled base f.multiplier) }

/-- The same leaves, all shown with a new multiplier. -/
def rescale (f : Foliage α) (multiplier : α) : Foliage α :=
  ⟨f.leaves.map fun leaf => Leaf.scaled leaf.base multiplier, multiplier⟩

def count (f : Foliage α) : Nat := f.leaves.size

end Foliage

/-- Whether a leaf symbol with the commands `rest` behind it places a leaf.  When leaves grow at
tips only, a branch that grows on has none here. -/
def leafAllowed (tipsOnly : Bool) (rest : List Command) : Bool := !(tipsOnly && growsOn rest)

/-- Places a leaf, if one is allowed; only a leaf that is placed draws samples. -/
def placeLeaf? {σ : Type} (step : α) (tipsOnly : Bool) (rest : List Command) (position : Vec3 α)
    (orientation : Rotation α) (source : Source α σ) (s : σ) : Option (LeafTransform α) × σ :=
  if leafAllowed tipsOnly rest then
    let (first, s') := source.next s
    let (second, s'') := source.next s'
    (some (LeafTransform.twisted step position orientation first second), s'')
  else (none, s)

end PlantGrowth
