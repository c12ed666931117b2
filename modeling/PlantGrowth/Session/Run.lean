import PlantGrowth.Config.Flags
import PlantGrowth.Config.Store
import PlantGrowth.Generation.Generator
import PlantGrowth.Log.Filter
import PlantGrowth.Session.Report

/-!
# Sessions

One session of the program: it reads the flags, opens the configuration, grows the plant that the
two describe, and tells about it.  A configuration that cannot be read is replaced by the standard
one; flags that cannot be read, a preset that does not exist and a colour that cannot be read end
the session.
-/

namespace PlantGrowth

structure Opening where
  config : Config
  /-- What stands in its place afterwards. -/
  place : ConfigPlace
  /-- Why the standard configuration had to do. -/
  fault : Option ConfigError

def ConfigPlace.opening (place : ConfigPlace) : Opening :=
  match place.load with
  | .ok (config, place') => ⟨config, place', none⟩
  | .error e => ⟨Config.standard, place, some e⟩

namespace Session

/-- The configuration of a place with the flags set in it. -/
def config (flags : Flags) (place : ConfigPlace) : Except ConfigError Config :=
  flags.applyTo place.opening.config

/-- The plant that flags and a place describe together. -/
def request (flags : Flags) (place : ConfigPlace) : Except ConfigError (Request Float32) := do
  (← config flags place).request

structure Setting where
  args : List String
  /-- The place of the configuration, in the folder that the flags name if they do. -/
  place : ConfigPlace
  filter : Option String
  /-- The seed of a plant that has none. -/
  freshSeed : UInt64

structure Outcome where
  exitCode : UInt32
  /-- The answer to a question that the flags ask. -/
  answer : List String
  /-- What is said about flags and configuration before there is a log. -/
  complaints : List String
  log : List LogLine
  place : ConfigPlace
  /-- Whether the session came so far as to keep a log. -/
  logKept : Bool

/-- The lines of a whole generation, and of the plant that came of it. -/
def growth (c : Config) (r : Request Float32) (freshSeed : UInt64) : List LogLine :=
  let seed := r.seed.getD freshSeed
  let g := r.generation Source.seeded (Keystream.start seed)
  Report.generation g ++ Report.output c.render { g.output with seed := some seed }

/-- The lines of a session whose configuration is complete, and how it ends. -/
def work (c : Config) (freshSeed : UInt64) : List LogLine × UInt32 :=
  let rules := Report.rules c.grammar.rules
  match c.request with
  | .error e => (rules ++ [Report.refusal e], 2)
  | .ok r => (rules ++ growth c r freshSeed, 0)

/-- The complaint about a configuration that could not be opened. -/
def complaint (e : ConfigError) : String :=
  "Failed to load config: " ++ e.message ++ ", using defaults"

def runWith (flags : Flags) (s : Setting) : Outcome :=
  let opened := s.place.opening
  let complaints := (opened.fault.map complaint).toList
  match config flags s.place with
  | .error e => ⟨2, [], complaints ++ [e.message], [], opened.place, false⟩
  | .ok c =>
    let (lines, exitCode) := work c s.freshSeed
    let filter := LogFilter.choose s.filter (some c)
    ⟨exitCode, [], complaints, lines.filter filter.shows, opened.place, true⟩

def run (s : Setting) : Outcome :=
  match Flags.ofWords s.args with
  | .error .help => ⟨0, Flag.usage, [], [], s.place, false⟩
  | .error e => ⟨2, [], [e.message], [], s.place, false⟩
  | .ok flags => runWith flags s

end Session

end PlantGrowth
