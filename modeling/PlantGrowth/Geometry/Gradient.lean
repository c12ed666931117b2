import PlantGrowth.Space.Bounds

/-!
# Height gradients

Branches are coloured by height: one colour at the lowest point of the plant, one at the highest,
and a linear blend between.  A plant without height is coloured as if it were one unit high.
-/

namespace PlantGrowth

open Scalar

variable {α : Type} [Scalar α]

/-- A blend of two colours over a range of heights. -/
structure Gradient (α : Type) where
  base : Vec3 α
  tip : Vec3 α
  lowest : α
  range : α

namespace Gradient

/-- The blend over the height of a box.  Without a box, or without height, the range is one unit. -/
def ofExtent (base tip : Vec3 α) (extent : Extent α) : Gradient α :=
  let (lowest, range) :=
    match extent with
    | some b => (b.min.y, b.size.y)
    | none => (0, 1)
  ⟨base, tip, lowest, if Scalar.lt 0 range then range else 1⟩

/-- How far up the range a height lies, between zero and one. -/
def level (g : Gradient α) (y : α) : α := clamp ((y - g.lowest) / g.range) 0 1

def colorAt (g : Gradient α) (y : α) : Vec3 α := g.base.lerp g.tip (g.level y)

end Gradient

end PlantGrowth
