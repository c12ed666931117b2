import PlantGrowth.Config.Basic
import PlantGrowth.Document.Printer

/-!
# Configurations as text

A configuration is written as a record of its sections, and every section as a record of its
fields, all of them in a fixed order.
-/

namespace PlantGrowth

open Document

def GrammarSettings.entries (g : GrammarSettings) : List Entry :=
  [("axiom", textOf g.start), ("rules", textOf g.rules),
    ("iterations", naturalOf g.iterations.toNat)]

def TurtleSettings.entries (t : TurtleSettings) : List Entry :=
  [("angle_deg", floatOf t.angle), ("variance_deg", floatOf t.variance),
    ("step_length", floatOf t.stepLength), ("base_width", floatOf t.baseWidth),
    ("taper", floatOf t.taper), ("leaf_scale", floatOf t.leafScale),
    ("tips_only", boolOf t.tipsOnly),
    ("seed", optionOf (fun n => naturalOf n.toNat) t.seed)]

def RenderSettings.entries (r : RenderSettings) : List Entry :=
  [("mode", r.mode.name.toList), ("shape", r.shape.name.toList),
    ("radial_segments", naturalOf r.radialSegments.toNat), ("base_color", textOf r.baseColor),
    ("tip_color", textOf r.tipColor), ("leaf_color", textOf r.leafColor),
    ("auto_scale", boolOf r.autoScale), ("target_height", floatOf r.targetHeight),
    ("fov_y_deg", floatOf r.fieldOfView)]

def Limits.entries (l : Limits) : List Entry :=
  [("max_string_length", naturalOf l.stringLength.toNat),
    ("max_segments", naturalOf l.segments.toNat), ("max_vertices", naturalOf l.vertices.toNat)]

def DebugSettings.entries (d : DebugSettings) : List Entry := [("log_level", textOf d.logLevel)]

namespace Config

def entries (c : Config) : List Entry :=
  [("grammar", recordText 4 c.grammar.entries),
    ("turtle", recordText 4 c.turtle.entries),
    ("render", recordText 4 c.render.entries),
    ("limits", recordText 4 c.limits.entries),
    ("debug", recordText 4 c.debug.entries)]

def print (c : Config) : String := String.ofList (recordText 0 c.entries)

end Config

end PlantGrowth
