import PlantGrowth.Camera
import PlantGrowth.Decimal.Notation
import PlantGrowth.Generation.Output
import PlantGrowth.Log.Line

/-!
# What is told about a plant

The lines that the parts of the program write while a plant is grown, and those that sum it up at
the end, in the order in which they are written.
-/

namespace PlantGrowth

inductive Speaker where
  | grammar
  | generator
  | turtle
  | tube
  | instances
  | program
  deriving DecidableEq, Repr

def Speaker.target : Speaker → String
  | grammar => "arbor_lsystem::grammar"
  | generator => "arbor_app::generator"
  | turtle => "arbor_lsystem::turtle"
  | tube => "arbor_mesh::tube"
  | instances => "arbor_mesh::instances"
  | program => "arbor"

/-- What lines of a speaker hold: the program itself gives a message only, every other part also
says where that comes from. -/
def Speaker.fields : Speaker → List String
  | program => ["message"]
  | _ => ["message", "log.target", "log.module_path", "log.file", "log.line"]

def Speaker.line (s : Speaker) (level : LogLevel) (parts : List String) : LogLine :=
  ⟨level, s.target, s.fields, String.join parts⟩

namespace Report

def num (n : Nat) : String := String.ofList (Nat.toDigits 10 n)

def point (v : Vec3 Float32) : String :=
  "Vec3(" ++ Decimal.text v.x ++ ", " ++ Decimal.text v.y ++ ", " ++ Decimal.text v.z ++ ")"

def when (b : Bool) (line : LogLine) : List LogLine := if b then [line] else []

def rules (text : String) : List LogLine :=
  (Grammar.malformedLines text).map fun line =>
    Speaker.grammar.line .debug
      ["Skipping malformed rule line ", Text.quoted (String.ofList line)]

/-- A configuration that no plant can be grown from. -/
def refusal (e : ConfigError) : LogLine :=
  Speaker.program.line .error ["Invalid configuration: ", e.message]

variable {σ : Type}

def expansion (g : Generation Float32 σ) : List LogLine :=
  let length := num g.expansion.word.length
  let passes := num g.expansion.passes
  when g.expansion.truncated
      (Speaker.grammar.line .warn
        ["L-system string truncated at ", length, " symbols after ", passes, " of ",
          num g.request.iterations, " iterations"]) ++
    [Speaker.generator.line .debug
        ["Expanded ", num g.request.grammar.ruleCount, " rules to ", length, " symbols in ",
          passes, " iterations"],
      Speaker.generator.line .trace ["Expanded string: ", String.ofList g.expansion.word]]

def tour (g : Generation Float32 σ) : List LogLine :=
  let segments := num g.tour.walk.segments
  when g.tour.stoppedEarly
      (Speaker.turtle.line .warn
        ["Geometry cap reached after ", segments, " segments, ", num g.tour.skipped,
          " symbols skipped"]) ++
    [Speaker.turtle.line .debug
      ["Interpreted ", num g.expansion.word.length, " symbols: ", segments, " segments, ",
        num g.tour.walk.foliage.count, " leaves, depth ", num g.tour.walk.maxDepth]]

def geometry : Geometry Float32 → LogLine
  | .tube mesh =>
    Speaker.tube.line .debug
      ["Tube mesh: ", num mesh.rings, " rings, ", num mesh.vertexCount, " vertices, ",
        num mesh.triangleCount, " triangles"]
  | .instances list =>
    Speaker.instances.line .debug
      ["Branch instances: ", num list.count, " (", list.shape.name, ")"]

/-- Everything that is told during a generation. -/
def generation (g : Generation Float32 σ) : List LogLine :=
  expansion g ++ tour g ++ [geometry g.geometry]

def counts (o : Output Float32) : List LogLine :=
  [Speaker.program.line .info [o.stats.summary],
    Speaker.program.line .info
      ["String: ", num o.stats.wordLength, " symbols after ", num o.stats.passes, " iterations"]] ++
  when o.stats.wordTruncated
    (Speaker.program.line .warn ["String length cap reached, expansion stopped early"]) ++
  [match o.geometry with
    | .tube mesh =>
      Speaker.program.line .info
        ["Tube mesh: ", num o.stats.rings, " rings (", num o.stats.pivots, " pivots), ",
          num mesh.vertexCount, " vertices, ", num mesh.triangleCount, " triangles"]
    | .instances list =>
      Speaker.program.line .info
        ["Instances: ", num list.count, " (", list.shape.name, ")"]] ++
  when o.stats.geometryTruncated
    (Speaker.program.line .warn ["Geometry cap reached, output is partial"]) ++
  match o.seed with
  | some seed => [Speaker.program.line .info ["Seed: ", num seed.toNat]]
  | none => []

def view (settings : RenderSettings) (extent : Extent Float32) : List LogLine :=
  match extent with
  | none => []
  | some b =>
    let scale := Extent.displayScale extent settings.autoScale settings.targetHeight.toFloat
    let fit := CameraFit.ofBounds b scale (Scalar.radians settings.fieldOfView.toFloat)
    [Speaker.program.line .info
        ["Bounds: min ", point b.min, ", max ", point b.max],
      Speaker.program.line .info
        ["Display scale ", Decimal.fixedText scale 3, ", camera target ", point fit.target,
          ", distance ", Decimal.fixedText fit.distance 2, ", far plane ",
          Decimal.fixedText fit.far 1]]

/-- Everything that is told about a finished plant. -/
def output (settings : RenderSettings) (o : Output Float32) : List LogLine :=
  counts o ++ view settings o.extent

end Report

end PlantGrowth
