import PlantGrowth.Config.Basic

/-!
# Presets

A preset is a plant by name: its grammar, the habit it grows in, and its colours.  Applying one to
a configuration leaves everything else in it alone, except that the plant is scaled again to the
target height.  Names are looked up without regard to the case of ASCII letters or to blanks
around them.
-/

namespace PlantGrowth

/-- A plant by name; angles are in degrees. -/
structure Preset where
  name : String
  start : String
  rules : String
  angle : Binary32
  variance : Binary32
  iterations : UInt32
  stepLength : Binary32
  baseWidth : Binary32
  taper : Binary32
  baseColor : String
  tipColor : String
  leafColor : String

namespace Preset

def tree1 : Preset where
  name := "tree1"
  start := "X"
  rules := "X=F-[![X]+X]+F[+F!X]-X\nF=FF"
  angle := 22.5
  variance := 2.0
  iterations := 6
  stepLength := 1.5
  baseWidth := 0.961
  taper := 0.69
  baseColor := "#5d4037"
  tipColor := "#22c55e"
  leafColor := "#f0abfc"

def tree2 : Preset where
  name := "tree2"
  start := "F"
  rules := "F=FF!+[+F-F-F]-[-F+F+F]"
  angle := 25.0
  variance := 0.0
  iterations := 4
  stepLength := 2.0
  baseWidth := 0.732
  taper := 0.95
  baseColor := "#2d1b0e"
  tipColor := "#84cc16"
  leafColor := "#facc15"

def pine : Preset where
  name := "pine"
  start := "FX"
  rules := "X=![+FX][-FX][&FX][^FX]\nF=FF"
  angle := 22.0
  variance := 14.0
  iterations := 8
  stepLength := 0.5
  baseWidth := 6.699
  taper := 0.58
  baseColor := "#3f2e18"
  tipColor := "#05850d"
  leafColor := "#05850d"

def fern : Preset where
  name := "fern"
  start := "X"
  rules := "X=F[+!X][ -!X]F!X\nF=FF"
  angle := 25.0
  variance := 0.0
  iterations := 6
  stepLength := 1.0
  baseWidth := 0.905
  taper := 0.7
  baseColor := "#1a642e"
  tipColor := "#22c55e"
  leafColor := "#ccfbf1"

def fern3d : Preset where
  name := "fern3d"
  start := "X"
  rules := "X=F///+[[!X]///-!X]///-F[///-F!X]///+!X\nF=FF"
  angle := 22.5
  variance := 6.0
  iterations := 7
  stepLength := 0.1
  baseWidth := 0.370
  taper := 0.81
  baseColor := "#2e5c18"
  tipColor := "#22c55e"
  leafColor := "#86efac"

def bush : Preset where
  name := "bush"
  start := "A"
  rules :=
    "A=[&FL!A]/////'[&FL!A]///////'[&FL!A]\n" ++
    "F=S/////F\nS=FL\nL=['''^^\x7b-f+f+f-|-f+f+f\x7d]"
  angle := 22.5
  variance := 0.0
  iterations := 6
  stepLength := 2.0
  baseWidth := 0.607
  taper := 0.61
  baseColor := "#3f2e18"
  tipColor := "#0cad00"
  leafColor := "#f43f5e"

def spire : Preset where
  name := "spire"
  start := "F"
  rules := "F=F[&+F][&-F][^+F][^-F]//F"
  angle := 28.5
  variance := 2.0
  iterations := 6
  stepLength := 2.0
  baseWidth := 0.17
  taper := 1.0
  baseColor := "#4a4036"
  tipColor := "#a8a8a0"
  leafColor := "#ffcc00"

def hilbert : Preset where
  name := "hilbert"
  start := "A"
  rules :=
    "A=B-F+CFC+F-D&F^D-F+&&CFC+F+B//\n" ++
    "B=A&F^CFB^F^D^^-F-D^|F^B|FC^F^A//\n" ++
    "C=|D^|F^B-F+C^F^A&&FA&F^C+F+B^F^D//\n" ++
    "D=|CFB-F+B|FA&F^A&&FB-F+B|FC//"
  angle := 90.0
  variance := 0.0
  iterations := 3
  stepLength := 4.0
  baseWidth := 0.2
  taper := 1.0
  baseColor := "#0ea5e9"
  tipColor := "#d946ef"
  leafColor := "#ffffff"

def twisted : Preset where
  name := "twisted"
  start := "F"
  rules := "F=F[&+F][&-F]///F"
  angle := 30.0
  variance := 0.0
  iterations := 5
  stepLength := 2.0
  baseWidth := 0.15
  taper := 1.0
  baseColor := "#44403c"
  tipColor := "#a8a29e"
  leafColor := "#fbbf24"

def barnsley : Preset where
  name := "barnsley"
  start := "X"
  rules := "X=F+[[!X]-!X]-F[-F!X]+!X\nF=FF"
  angle := 25.0
  variance := 0.0
  iterations := 7
  stepLength := 1.5
  baseWidth := 3.754
  taper := 0.73
  baseColor := "#14532d"
  tipColor := "#22c55e"
  leafColor := "#86efac"

def all : List Preset :=
  [tree1, tree2, pine, fern, fern3d, bush, spire, hilbert, twisted, barnsley]

/-- A name as it is compared. -/
def key (name : String) : List Char := name.toList.map Char.toLower

def find? (name : String) : Option Preset :=
  let wanted := (Text.trim name.toList).map Char.toLower
  all.find? fun p => key p.name == wanted

/-- The configuration with the plant of the preset in it. -/
def applyTo (p : Preset) (c : Config) : Config :=
  { c with
    grammar := ⟨p.start, p.rules, p.iterations⟩
    turtle :=
      { c.turtle with
        angle := p.angle, variance := p.variance, stepLength := p.stepLength,
        baseWidth := p.baseWidth, taper := p.taper }
    render :=
      { c.render with
        baseColor := p.baseColor, tipColor := p.tipColor, leafColor := p.leafColor,
        autoScale := true } }

end Preset

namespace Config

/-- The configuration that nothing else is said about: the first preset, as one tube. -/
def standard : Config :=
  Preset.tree1.applyTo
    { grammar := ⟨"", "", 0⟩
      turtle :=
        { angle := 0, variance := 0, stepLength := 0, baseWidth := 0, taper := 0, leafScale := 1,
          tipsOnly := false, seed := none }
      render :=
        { mode := .continuous, shape := .cylinder, radialSegments := 8, baseColor := "",
          tipColor := "", leafColor := "", autoScale := true, targetHeight := 60,
          fieldOfView := 60 }
      limits := Limits.standard
      debug := ⟨"info"⟩ }

/-- The configuration with the plant of a preset in it, if there is one of that name. -/
def withPreset (c : Config) (name : String) : Except ConfigError Config :=
  match Preset.find? name with
  | some p => .ok (p.applyTo c)
  | none => .error (.unknownPreset name)

end Config

end PlantGrowth
