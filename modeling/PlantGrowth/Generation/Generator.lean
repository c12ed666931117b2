import PlantGrowth.Chance.Keystream
import PlantGrowth.Generation.Output

/-!
# The generator

A generator runs one generation at a time.  Who asks for another meanwhile is turned away, even
when the source of chance itself asks in the middle of a generation.  However a generation ends,
the generator is free again afterwards.
-/

namespace PlantGrowth

/-- A generator, with whether a generation is in flight. -/
structure Generator where
  busy : Bool
  deriving DecidableEq, Repr

inductive Reply (ρ : Type) where
  /-- Another generation was in flight. -/
  | dropped
  /-- The source of chance broke down, and nothing was kept. -/
  | failed
  | done (result : ρ)
  deriving DecidableEq, Repr

namespace Reply

def result? {ρ : Type} : Reply ρ → Option ρ
  | dropped | failed => none
  | done r => some r

end Reply

namespace Generator

def idle : Generator := ⟨false⟩

/-- The generator with a generation begun, if none is in flight. -/
def begin? (g : Generator) : Option Generator := if g.busy then none else some ⟨true⟩

def finish (_ : Generator) : Generator := ⟨false⟩

variable {α σ ρ : Type} [Scalar α]

/-- Runs something as a generation.  What is run may use the generator itself, and has failed if
it leaves the state `broken`. -/
def attempt (broken : σ → Bool) (run : Generator × σ → ρ × Generator × σ) (state : Generator × σ) :
    Reply ρ × Generator × σ :=
  match state.1.begin? with
  | none => (.dropped, state)
  | some g =>
    let (r, g', s) := run (g, state.2)
    (if broken s then .failed else .done r, g'.finish, s)

def generateWith (r : Request α) (source : Source α (Generator × σ)) (broken : σ → Bool) :
    Generator × σ → Reply (Output α) × Generator × σ :=
  attempt broken fun state =>
    let generation := r.generation source state
    (generation.output, generation.tour.walk.source)

/-- Grows a plant with the samples of its own seed, or of `fresh` if it has none. -/
def generate (r : Request α) (fresh : UInt64) (g : Generator) : Reply (Output α) × Generator :=
  let seed := r.seed.getD fresh
  let run (state : Generator × Unit) : Output α × Generator × Unit :=
    let generation := r.generation Source.seeded (Keystream.start seed)
    ({ generation.output with seed := some seed }, state)
  let (reply, g', _) := attempt (fun _ => false) run (g, ())
  (reply, g')

end Generator

end PlantGrowth
