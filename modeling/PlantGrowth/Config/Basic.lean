import PlantGrowth.Config.Error
import PlantGrowth.Decimal.Basic
import PlantGrowth.Geometry.Color
import PlantGrowth.Geometry.Instances

/-!
# Configurations

A configuration holds everything that can be set about a plant and the way it is shown.  Angles
are kept in degrees and colours as the texts they were given by; neither is looked at before a
plant is asked for.  Two configurations are compared as numbers compare, so that one with
something that is not a number differs from itself.
-/

namespace PlantGrowth

/-- What the segments of a plant are made into. -/
inductive RenderMode where
  | continuous
  | discrete
  deriving DecidableEq, Repr

def RenderMode.name : RenderMode → String
  | continuous => "Continuous"
  | discrete => "Discrete"

/-- The grammar of a plant, with one rule a line. -/
structure GrammarSettings where
  start : String
  rules : String
  iterations : UInt32
  deriving BEq

/-- The habit of a plant, with angles in degrees. -/
structure TurtleSettings where
  angle : Binary32
  variance : Binary32
  stepLength : Binary32
  baseWidth : Binary32
  taper : Binary32
  leafScale : Binary32
  tipsOnly : Bool
  /-- Where chance starts from; without it, anywhere. -/
  seed : Option UInt64
  deriving BEq

structure RenderSettings where
  mode : RenderMode
  shape : Shape
  radialSegments : UInt32
  baseColor : String
  tipColor : String
  leafColor : String
  /-- Whether the plant is shown at the target height, whatever its own. -/
  autoScale : Bool
  targetHeight : Binary32
  /-- The vertical angle of view in degrees. -/
  fieldOfView : Binary32
  deriving BEq

structure Limits where
  stringLength : UInt64
  segments : UInt64
  vertices : UInt64
  deriving DecidableEq

/-- The limits of a plant that nothing else is said about. -/
def Limits.standard : Limits := ⟨1000000, 400000, 10000000⟩

structure DebugSettings where
  logLevel : String
  deriving BEq

structure Config where
  grammar : GrammarSettings
  turtle : TurtleSettings
  render : RenderSettings
  limits : Limits
  debug : DebugSettings
  deriving BEq

namespace Config

variable {α : Type} [Scalar α]

/-- The colour that a text stands for, or the fault in it. -/
def color (text : String) : Except ConfigError (Vec3 α) :=
  match Color.ofText? text with
  | some c => .ok c
  | none => .error (.invalidColor text)

theorem color_eq_ok_iff {text : String} {v : Vec3 α} :
    color text = .ok v ↔ Color.ofText? text = some v := by
  unfold color
  cases (Color.ofText? text : Option (Vec3 α)) <;> simp

theorem color_eq_error_iff {text : String} {e : ConfigError} :
    (color text : Except ConfigError (Vec3 α)) = .error e ↔
      (Color.ofText? text : Option (Vec3 α)) = none ∧ e = .invalidColor text := by
  unfold color
  cases (Color.ofText? text : Option (Vec3 α)) <;> simp [eq_comm]

/-- The colours of the configuration.  Of several faults the first counts, in the order base, tip,
leaf. -/
def palette (c : Config) : Except ConfigError (Palette α) := do
  let base ← color c.render.baseColor
  let tip ← color c.render.tipColor
  let leaf ← color c.render.leafColor
  return ⟨base, tip, leaf⟩

end Config

end PlantGrowth
