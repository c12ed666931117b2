import PlantGrowth.Command

/-!
# Looking ahead

Both scans read the commands ahead of the turtle without leaving its branch: side branches are
passed over as a whole, and a `pop` without a `push` of its own ends the branch.
-/

namespace PlantGrowth

/-- A run of segments that ends in a taper mark of the same branch. -/
structure MarkedRun where
  /-- The segments drawn before the mark, at least one. -/
  segments : Nat
  /-- The position of the mark in the whole word. -/
  mark : Nat
  deriving DecidableEq, Repr

namespace MarkedRun

/-- Looks for the next mark from position `index`, inside `depth` side branches and with
`segments` segments counted. -/
def scanFrom : Nat → Nat → Nat → List Command → Option MarkedRun
  | _, _, _, [] => none
  | depth, segments, index, c :: rest =>
    match c with
    | .push => scanFrom (depth + 1) segments (index + 1) rest
    | .pop =>
      match depth with
      | 0 => none
      | outer + 1 => scanFrom outer segments (index + 1) rest
    | .taperMark =>
      if depth == 0 then if segments == 0 then none else some ⟨segments, index⟩
      else scanFrom depth segments (index + 1) rest
    | .forward =>
      scanFrom depth (if depth == 0 then segments + 1 else segments) (index + 1) rest
    | _ => scanFrom depth segments (index + 1) rest

/-- The run that the commands from position `index` on begin with: the segments up to the next
mark of this branch.  There is none if the branch ends unmarked, or if no segment comes before the
mark. -/
def scan (index : Nat) (ahead : List Command) : Option MarkedRun := scanFrom 0 0 index ahead

end MarkedRun

/-- Whether the branch grows on: a segment or a side branch comes before the end of the branch. -/
def growsOn : List Command → Bool
  | [] => false
  | .pop :: _ => false
  | .push :: _ => true
  | .forward :: _ => true
  | _ :: rest => growsOn rest

end PlantGrowth
