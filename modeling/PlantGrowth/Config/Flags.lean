import PlantGrowth.Config.Presets
import PlantGrowth.Decimal.Reading

/-!
# Flags

A command line sets parts of a configuration by flags, each followed by its value or joined to it
by an equals sign.  A flag is kept waiting until the next one shows that its value is complete,
and only then are its value and its being the first of its name looked at.  What comes first on
the line is reported first, but for a word that is no flag at all: that is reported at once.
-/

namespace PlantGrowth

structure Flags where
  preset : Option String := none
  start : Option String := none
  rules : Option String := none
  iterations : Option UInt32 := none
  angle : Option Binary32 := none
  variance : Option Binary32 := none
  step : Option Binary32 := none
  width : Option Binary32 := none
  taper : Option Binary32 := none
  leafScale : Option Binary32 := none
  tipsOnly : Option Bool := none
  mode : Option RenderMode := none
  shape : Option Shape := none
  seed : Option UInt64 := none
  logLevel : Option String := none
  folder : Option String := none

/-- What a command line is refused for, or what it asks for instead of a plant. -/
inductive FlagError where
  /-- A flag without a value, or with one that is none of its choices. -/
  | invalidValue
  /-- A value that is not a number of the right kind. -/
  | malformedValue
  /-- More than one value for a flag that takes none. -/
  | tooManyValues
  | repeated
  | unknown
  | help
  deriving DecidableEq, Repr

/-- What is said to a command line that is refused. -/
def FlagError.message : FlagError → String
  | invalidValue => "error: a flag has no value, or none of those it can have"
  | malformedValue => "error: the value of a flag is not a number of the right kind"
  | tooManyValues => "error: a value is given to a flag that takes none"
  | repeated => "error: a flag is given twice"
  | unknown => "error: there is no such flag"
  | help => "L-system plant geometry generator"

/-- A flag: its name behind two dashes, and what its value sets. -/
structure Flag where
  name : String
  set : String → Flags → Except FlagError Flags

namespace Flag

def of {γ : Type} (name : String) (read : String → Except FlagError γ)
    (put : Flags → γ → Flags) : Flag :=
  ⟨name, fun value flags => do return put flags (← read value)⟩

def text (value : String) : Except FlagError String := .ok value

def nonempty (value : String) : Except FlagError String :=
  if value.isEmpty then .error .invalidValue else .ok value

def number {γ : Type} (n : Option γ) : Except FlagError γ :=
  match n with
  | some n => .ok n
  | none => .error .malformedValue

def float (value : String) : Except FlagError Binary32 := number (Decimal.float? value.toList)

/-- A whole number of 32 bits; a minus may stand before zero. -/
def word32 (value : String) : Except FlagError UInt32 :=
  number ((Decimal.unsignedBelow? UInt32.size value.toList).map UInt32.ofNat)

def word64 (value : String) : Except FlagError UInt64 :=
  number ((Decimal.naturalBelow? UInt64.size value.toList).map UInt64.ofNat)

def choice {γ : Type} (choices : List (String × γ)) (value : String) : Except FlagError γ :=
  match choices.lookup value with
  | some v => .ok v
  | none => .error .invalidValue

def all : List Flag :=
  [of "preset" text fun f v => { f with preset := some v },
    of "axiom" text fun f v => { f with start := some v },
    of "rules" text fun f v => { f with rules := some v },
    of "iterations" word32 fun f v => { f with iterations := some v },
    of "angle" float fun f v => { f with angle := some v },
    of "variance" float fun f v => { f with variance := some v },
    of "step" float fun f v => { f with step := some v },
    of "width" float fun f v => { f with width := some v },
    of "taper" float fun f v => { f with taper := some v },
    of "leaf-scale" float fun f v => { f with leafScale := some v },
    of "tips-only" (choice [("true", true), ("false", false)])
      fun f v => { f with tipsOnly := some v },
    of "mode" (choice [("continuous", RenderMode.continuous), ("discrete", .discrete)])
      fun f v => { f with mode := some v },
    of "shape" (choice [("cylinder", Shape.cylinder), ("cuboid", .cuboid)])
      fun f v => { f with shape := some v },
    of "seed" word64 fun f v => { f with seed := some v },
    of "log-level" text fun f v => { f with logLevel := some v },
    of "config" nonempty fun f v => { f with folder := some v }]

def named? (name : List Char) : Option Flag := all.find? fun f => f.name.toList == name

def usage : List String :=
  [FlagError.help.message, "", "Usage: arbor [OPTIONS]", ""] ++
    (all.map fun f => "      --" ++ f.name ++ " <VALUE>") ++ ["  -h, --help"]

end Flag

structure FlagReading where
  flags : Flags := {}
  seen : List String := []
  /-- The flag that waits, with its value if that has been read. -/
  waiting : Option (Flag × Option String) := none

namespace FlagReading

def set (r : FlagReading) (flag : Flag) (value : String) : Except FlagError FlagReading :=
  if r.seen.contains flag.name then .error .repeated
  else do return { r with flags := ← flag.set value r.flags, seen := flag.name :: r.seen }

def settle (r : FlagReading) : Except FlagError FlagReading :=
  match r.waiting with
  | none => .ok r
  | some (_, none) => .error .invalidValue
  | some (flag, some value) => ({ r with waiting := none }).set flag value

/-- Reads a word that begins with two dashes, from behind them. -/
def long (r : FlagReading) (body : List Char) : Except FlagError FlagReading :=
  match Text.cut '=' body with
  | (name, value) =>
    if name == "help".toList then
      if value.isSome then .error .tooManyValues
      else do
        let _ ← r.settle
        .error .help
    else
      match Flag.named? name, value with
      | none, _ => .error .unknown
      | some flag, none => do return { ← r.settle with waiting := some (flag, none) }
      | some flag, some value => do (← r.settle).set flag (String.ofList value)

def value (r : FlagReading) (word : String) : Except FlagError FlagReading :=
  match r.waiting with
  | some (flag, none) => .ok { r with waiting := some (flag, some word) }
  | _ => .error .unknown

def words (r : FlagReading) : List String → Except FlagError FlagReading
  | [] => r.settle
  | word :: rest =>
    match word.toList with
    | ['-', '-'] => if rest.isEmpty then r.settle else .error .unknown
    | '-' :: '-' :: body => do words (← r.long body) rest
    | '-' :: 'h' :: _ => do
      let _ ← r.settle
      .error .help
    | '-' :: _ :: _ => .error .unknown
    | _ => do words (← r.value word) rest

end FlagReading

namespace Flags

def ofWords (words : List String) : Except FlagError Flags :=
  (({} : FlagReading).words words).map FlagReading.flags

/-- The rules of a flag, which may be divided by semicolons. -/
def ruleLines (rules : String) : String := rules.map fun c => if c == ';' then '\n' else c

/-- The configuration with every flag but the preset set in it. -/
def overlay (f : Flags) (c : Config) : Config where
  grammar :=
    { start := f.start.getD c.grammar.start
      rules := (f.rules.map ruleLines).getD c.grammar.rules
      iterations := f.iterations.getD c.grammar.iterations }
  turtle :=
    { angle := f.angle.getD c.turtle.angle
      variance := f.variance.getD c.turtle.variance
      stepLength := f.step.getD c.turtle.stepLength
      baseWidth := f.width.getD c.turtle.baseWidth
      taper := f.taper.getD c.turtle.taper
      leafScale := f.leafScale.getD c.turtle.leafScale
      tipsOnly := f.tipsOnly.getD c.turtle.tipsOnly
      seed := f.seed <|> c.turtle.seed }
  render :=
    { c.render with
      mode := f.mode.getD c.render.mode
      shape := f.shape.getD c.render.shape }
  limits := c.limits
  debug := ⟨f.logLevel.getD c.debug.logLevel⟩

/-- The configuration with every flag set in it, the preset first. -/
def applyTo (f : Flags) (c : Config) : Except ConfigError Config := do
  let planted ←
    match f.preset with
    | some name => c.withPreset name
    | none => .ok c
  return f.overlay planted

end Flags

end PlantGrowth
