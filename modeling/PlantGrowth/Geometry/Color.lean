import PlantGrowth.Space.Vector
import PlantGrowth.Text.Blank
import PlantGrowth.Text.Hexadecimal

/-!
# Colours as text

A colour is written as six hexadecimal digits, two for each of red, green and blue, in either case
of letters.  A hash may stand before them and blanks around the whole.  The text counts in steps
of perceived lightness; geometry is coloured in linear light.
-/

namespace PlantGrowth

open Scalar

namespace Color

/-- The six digits of a colour without what may stand around them. -/
def body (text : String) : List Char :=
  match Text.trim text.toList with
  | '#' :: rest => rest
  | plain => plain

/-- The red, green and blue of a colour text, each below 256. -/
def channels? (text : String) : Option (Nat × Nat × Nat) := do
  match ← (body text).mapM Text.hexDigit? with
  | [r1, r0, g1, g0, b1, b0] => return (16 * r1 + r0, 16 * g1 + g0, 16 * b1 + b0)
  | _ => none

variable {α : Type} [Scalar α]

/-- The linear light of a lightness between zero and one: proportional near black, a power above. -/
def linear (c : α) : α :=
  if Scalar.le c (ratio 4045 100000) then c / ratio 1292 100
  else Scalar.pow ((c + ratio 55 1000) / ratio 1055 1000) (ratio 24 10)

def channel (n : Nat) : α := linear (Scalar.ofNat n / 255)

def ofText? (text : String) : Option (Vec3 α) :=
  (channels? text).map fun (r, g, b) => ⟨channel r, channel g, channel b⟩

end Color

structure Palette (α : Type) where
  /-- The colour of branches at the lowest point. -/
  base : Vec3 α
  /-- The colour of branches at the highest point. -/
  tip : Vec3 α
  leaf : Vec3 α

namespace Palette

variable {α : Type} [Scalar α]

def white : Palette α := ⟨Vec3.splat 1, Vec3.splat 1, Vec3.splat 1⟩

end Palette

end PlantGrowth
