import PlantGrowth.Leaf
import PlantGrowth.Space.Bounds
import PlantGrowth.Turtle.State

/-!
# Walking a word

The turtle walks over the commands of a grown word once.  Each `forward` hands one segment to the
builder, a leaf is kept in the foliage, brackets save and restore the turtle, and the extent grows
by every point that is reached.  A builder that is full ends the walk right after a segment; what
then lies ahead is skipped.  The commands ahead of the turtle are looked at, but they change
nothing behind it.
-/

namespace PlantGrowth

open Scalar

variable {α β σ : Type} [Scalar α]

/-- The way that a plant grows: angles in radians, lengths in model units. -/
structure Habit (α : Type) where
  angle : α
  variance : α
  stepLength : α
  baseWidth : α
  /-- The factor by which a taper mark narrows a branch. -/
  taper : α
  leafScale : α
  /-- Whether leaves grow only where a branch ends. -/
  tipsOnly : Bool

/-- The habit of a plant that nothing else is said about. -/
def Habit.standard : Habit α where
  angle := radians 25
  variance := 0
  stepLength := 1
  baseWidth := half
  taper := ratio 7 10
  leafScale := 1
  tipsOnly := false

/-- How far a walk has come: the turtle, the open branches, and what has been built. -/
structure Walk (α β σ : Type) where
  turtle : Turtle α
  stack : BranchStack α
  builder : β
  source : σ
  foliage : Foliage α
  extent : Extent α
  segments : Nat
  maxDepth : Nat

namespace Walk

def begin (habit : Habit α) (builder : Builder α β) (b : β) (s : σ) : Walk α β σ :=
  let turtle := Turtle.atOrigin habit.stepLength habit.baseWidth
  let (b', anchor) := builder.begin b turtle
  { turtle := { turtle with anchor }
    stack := []
    builder := b'
    source := s
    foliage := Foliage.empty habit.leafScale
    extent := Extent.empty.insert turtle.position
    segments := 0
    maxDepth := 0 }

/-- The segment that the turtle draws, on the taper run that holds for it. -/
def segment (t : Turtle α) (run : TaperRun α) : Segment α where
  start := t.position
  stop := t.position + t.heading.scale t.step
  orientation := t.orientation
  length := t.step
  width := t.width * run.factor
  startWidth := t.width
  decay := run.factor

/-- Draws a segment; `ahead` begins with the command that asks for it. -/
def draw (habit : Habit α) (builder : Builder α β) (index : Nat) (ahead : List Command)
    (w : Walk α β σ) : Walk α β σ :=
  let run := w.turtle.taper.lookUp habit.taper index ahead
  let drawn := segment w.turtle run
  let (b, anchor) := builder.add w.builder drawn w.turtle.anchor
  { w with
    turtle :=
      { w.turtle with
        position := drawn.stop, width := drawn.width, taper := run.afterSegment, anchor }
    builder := b
    extent := w.extent.insert drawn.stop
    segments := w.segments + 1 }

/-- Places a leaf where the turtle stands, if one is allowed. -/
def sprout (habit : Habit α) (source : Source α σ) (rest : List Command) (w : Walk α β σ) :
    Walk α β σ :=
  match placeLeaf? habit.stepLength habit.tipsOnly rest w.turtle.position w.turtle.orientation
      source w.source with
  | (some leaf, s) => { w with foliage := w.foliage.push leaf, source := s }
  | (none, s) => { w with source := s }

/-- Turns by the habit's angle, jittered by one sample. -/
def turn (habit : Habit α) (source : Source α σ) (axis : Axis) (positive : Bool)
    (w : Walk α β σ) : Walk α β σ :=
  let (x, s) := source.next w.source
  let angle := jittered habit.angle habit.variance x
  { w with
    turtle := w.turtle.rotate axis.direction (if positive then angle else -angle)
    source := s }

def turnAround (w : Walk α β σ) : Walk α β σ :=
  { w with turtle := w.turtle.rotate Vec3.unitZ Scalar.pi }

/-- Passes a taper mark: the one that the current run leads up to has already been accounted for. -/
def mark (habit : Habit α) (index : Nat) (w : Walk α β σ) : Walk α β σ :=
  if w.turtle.taper.endsAt index then
    { w with turtle := { w.turtle with taper := TaperRun.inactive } }
  else { w with turtle := { w.turtle with width := w.turtle.width * habit.taper } }

/-- Begins a side branch, which has no taper run yet. -/
def push (w : Walk α β σ) : Walk α β σ :=
  { w with
    stack := w.turtle :: w.stack
    maxDepth := max w.maxDepth (w.stack.length + 1)
    turtle := { w.turtle with taper := TaperRun.inactive } }

/-- Ends a side branch.  Without one, a new stretch of the trunk begins, which has not been looked
through. -/
def pop (w : Walk α β σ) : Walk α β σ :=
  match w.stack with
  | saved :: outer => { w with turtle := saved, stack := outer }
  | [] =>
    { w with turtle := { w.turtle with taper := { w.turtle.taper with unmarked := false } } }

/-- Obeys the command at position `index`, with the commands `rest` behind it. -/
def step (habit : Habit α) (builder : Builder α β) (source : Source α σ) (index : Nat)
    (c : Command) (rest : List Command) (w : Walk α β σ) : Walk α β σ :=
  match c with
  | .forward => w.draw habit builder index (c :: rest)
  | .leaf => w.sprout habit source rest
  | .turn axis positive => w.turn habit source axis positive
  | .turnAround => w.turnAround
  | .taperMark => w.mark habit index
  | .push => w.push
  | .pop => w.pop
  | .noop => w

/-- Whether the walk ends after a command: it drew a segment that filled the builder. -/
def ends (builder : Builder α β) (c : Command) (w : Walk α β σ) : Bool :=
  c == .forward && builder.full w.builder

end Walk

structure Tour (α β σ : Type) where
  walk : Walk α β σ
  /-- The commands that a full builder left unread. -/
  skipped : Nat

def Tour.stoppedEarly (t : Tour α β σ) : Bool := 0 < t.skipped

namespace Walk

/-- Goes on from position `index` until the commands end or the builder is full. -/
def runFrom (habit : Habit α) (builder : Builder α β) (source : Source α σ) :
    Nat → List Command → Walk α β σ → Tour α β σ
  | _, [], w => ⟨w, 0⟩
  | index, c :: rest, w =>
    let w' := w.step habit builder source index c rest
    if w'.ends builder c then ⟨w', rest.length⟩
    else runFrom habit builder source (index + 1) rest w'

def run (habit : Habit α) (builder : Builder α β) (source : Source α σ) (commands : List Command)
    (b : β) (s : σ) : Tour α β σ :=
  runFrom habit builder source 0 commands (begin habit builder b s)

end Walk

end PlantGrowth
