import PlantGrowth.Taper.Scan

/-!
# Tapering

A taper mark narrows the branch by the taper factor.  When segments lead up to the mark the
narrowing is spread over them: each of `n` segments narrows by the `n`-th root, and the mark
itself then does nothing more.  The run is looked up once, at its first segment, and counted down
from there; a branch that has no further run is remembered as such.
-/

namespace PlantGrowth

open Scalar

variable {α : Type} [Scalar α]

/-- The factor by which each of `n` segments narrows, to narrow by `taper` in all.  A run never
widens the branch. -/
def gradualDecay (taper : α) (n : Nat) : α :=
  if n == 0 then 1 else Scalar.pow (Scalar.lesser taper 1) (1 / Scalar.ofNat n)

structure TaperRun (α : Type) where
  decay : α
  /-- The segments of the run still to come. -/
  remaining : Nat
  /-- The position of the mark that the run leads up to. -/
  mark : Option Nat
  /-- Whether the rest of the branch is known to have no run. -/
  unmarked : Bool

namespace TaperRun

def inactive : TaperRun α := ⟨1, 0, none, false⟩

/-- The run that begins at position `index`, with the commands from there on. -/
def begin (taper : α) (index : Nat) (ahead : List Command) : TaperRun α :=
  match MarkedRun.scan index ahead with
  | some run => ⟨gradualDecay taper run.segments, run.segments, some run.mark, false⟩
  | none => { inactive with unmarked := true }

def isActive (t : TaperRun α) : Bool := 0 < t.remaining

/-- Whether a segment drawn now has to look for a run first. -/
def needsScan (t : TaperRun α) : Bool := !t.isActive && !t.unmarked

def advance (t : TaperRun α) : TaperRun α := { t with remaining := t.remaining - 1 }

/-- Whether the run leads up to the mark at `index`. -/
def endsAt (t : TaperRun α) (index : Nat) : Bool := t.mark == some index

def factor (t : TaperRun α) : α := if t.isActive then t.decay else 1

/-- The run as it stands for a segment at position `index`: looked up if need be. -/
def lookUp (t : TaperRun α) (taper : α) (index : Nat) (ahead : List Command) : TaperRun α :=
  if t.needsScan then begin taper index ahead else t

/-- The run after a segment; with none to come there is nothing to count. -/
def afterSegment (t : TaperRun α) : TaperRun α := if t.isActive then t.advance else t

end TaperRun

end PlantGrowth
