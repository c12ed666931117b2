import PlantGrowth.Config.Presets
import PlantGrowth.Document.Record

/-!
# Reading configurations

The kinds of the records that a configuration is made of, and their fields by name.  What a text
says nothing about stays as in the standard configuration.
-/

namespace PlantGrowth

open Document

def Document.word32? : Reader UInt32 := fun s =>
  (integer? ⟨false, 32⟩ s).map fun (n, rest) => (UInt32.ofNat n, rest)

def Document.word64? : Reader UInt64 := fun s =>
  (integer? ⟨false, 64⟩ s).map fun (n, rest) => (UInt64.ofNat n, rest)

def Document.binary32? : Reader Binary32 := float? ["f32"]

def GrammarSettings.kind : Kind GrammarSettings where
  name := "GrammarConfig"
  fields :=
    [Field.of "axiom" string? fun g v => { g with start := v },
      Field.of "rules" string? fun g v => { g with rules := v },
      Field.of "iterations" word32? fun g v => { g with iterations := v }]

def TurtleSettings.kind : Kind TurtleSettings where
  name := "TurtleConfig"
  fields :=
    [Field.of "angle_deg" binary32? fun t v => { t with angle := v },
      Field.of "variance_deg" binary32? fun t v => { t with variance := v },
      Field.of "step_length" binary32? fun t v => { t with stepLength := v },
      Field.of "base_width" binary32? fun t v => { t with baseWidth := v },
      Field.of "taper" binary32? fun t v => { t with taper := v },
      Field.of "leaf_scale" binary32? fun t v => { t with leafScale := v },
      Field.of "tips_only" bool? fun t v => { t with tipsOnly := v },
      Field.option "seed" word64? fun t v => { t with seed := v }]

/-- The modes by the names that a file gives them. -/
def RenderMode.named : List (String × RenderMode) :=
  [.continuous, .discrete].map fun m => (RenderMode.name m, m)

/-- The shapes by the names that a file gives them. -/
def Shape.named : List (String × Shape) := [.cylinder, .cuboid].map fun m => (Shape.name m, m)

def RenderSettings.kind : Kind RenderSettings where
  name := "RenderConfig"
  fields :=
    [Field.of "mode" (variant? RenderMode.named) fun r v => { r with mode := v },
      Field.of "shape" (variant? Shape.named) fun r v => { r with shape := v },
      Field.of "radial_segments" word32? fun r v => { r with radialSegments := v },
      Field.of "base_color" string? fun r v => { r with baseColor := v },
      Field.of "tip_color" string? fun r v => { r with tipColor := v },
      Field.of "leaf_color" string? fun r v => { r with leafColor := v },
      Field.of "auto_scale" bool? fun r v => { r with autoScale := v },
      Field.of "target_height" binary32? fun r v => { r with targetHeight := v },
      Field.of "fov_y_deg" binary32? fun r v => { r with fieldOfView := v }]

def Limits.kind : Kind Limits where
  name := "LimitsConfig"
  fields :=
    [Field.of "max_string_length" word64? fun l v => { l with stringLength := v },
      Field.of "max_segments" word64? fun l v => { l with segments := v },
      Field.of "max_vertices" word64? fun l v => { l with vertices := v }]

def DebugSettings.kind : Kind DebugSettings where
  name := "DebugConfig"
  fields := [Field.of "log_level" string? fun d v => { d with logLevel := v }]

namespace Config

def kind : Kind Config where
  name := "Config"
  fields :=
    [Field.record GrammarSettings.kind "grammar" Config.grammar fun c v => { c with grammar := v },
      Field.record TurtleSettings.kind "turtle" Config.turtle fun c v => { c with turtle := v },
      Field.record RenderSettings.kind "render" Config.render fun c v => { c with render := v },
      Field.record Limits.kind "limits" Config.limits fun c v => { c with limits := v },
      Field.record DebugSettings.kind "debug" Config.debug fun c v => { c with debug := v }]

def parse (text : String) : Except ConfigError Config :=
  match document? kind standard text with
  | some c => .ok c
  | none => .error .malformed

end Config

end PlantGrowth
