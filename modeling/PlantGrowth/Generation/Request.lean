import PlantGrowth.Config.Basic
import PlantGrowth.Grammar.RuleText
import PlantGrowth.Turtle.Walk

/-!
# Requests

A request says everything about one plant before it is grown.  It can be made from a
configuration, of which only the colours can be at fault.
-/

namespace PlantGrowth

open Scalar

/-- What the segments of a plant are made into, and how finely. -/
inductive GeometryMode where
  /-- A tube with a number of vertices around it. -/
  | continuous (radial : Nat)
  | discrete (shape : Shape)
  deriving DecidableEq, Repr

structure Request (α : Type) where
  grammar : Grammar
  iterations : Nat
  habit : Habit α
  mode : GeometryMode
  limits : Limits
  palette : Palette α
  /-- Where chance starts from; without it, anywhere. -/
  seed : Option UInt64

namespace Request

variable {α : Type} [Scalar α]

/-- The plant of a grammar that nothing else is said about: a white tube. -/
def ofGrammar (grammar : Grammar) (iterations : Nat) : Request α where
  grammar := grammar
  iterations := iterations
  habit := Habit.standard
  mode := .continuous 8
  limits := Limits.standard
  palette := Palette.white
  seed := none

def expansion (r : Request α) : Expansion :=
  r.grammar.expand r.iterations r.limits.stringLength.toNat

end Request

/-- The mode of geometry that the settings ask for; only instances have a shape. -/
def RenderSettings.geometryMode (r : RenderSettings) : GeometryMode :=
  match r.mode with
  | .continuous => .continuous r.radialSegments.toNat
  | .discrete => .discrete r.shape

/-- The habit with the angles of the settings in radians. -/
def TurtleSettings.habit (t : TurtleSettings) : Habit Float32 where
  angle := radians t.angle.toFloat
  variance := radians t.variance.toFloat
  stepLength := t.stepLength.toFloat
  baseWidth := t.baseWidth.toFloat
  taper := t.taper.toFloat
  leafScale := t.leafScale.toFloat
  tipsOnly := t.tipsOnly

def Config.request (c : Config) : Except ConfigError (Request Float32) := do
  let palette ← c.palette
  return {
    grammar := Grammar.ofText c.grammar.start c.grammar.rules
    iterations := c.grammar.iterations.toNat
    habit := c.turtle.habit
    mode := c.render.geometryMode
    limits := c.limits
    palette
    seed := c.turtle.seed }

end PlantGrowth
