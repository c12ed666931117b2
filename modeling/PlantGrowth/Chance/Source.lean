import PlantGrowth.Scalar

/-!
# Sources of chance

Angles and leaves vary by samples between zero and one.  A source hands out one sample at a time
and moves on; where the samples come from is its own affair.
-/

namespace PlantGrowth

open Scalar

/-- A supply of samples, with what is left of it after each. -/
structure Source (α σ : Type) where
  next : σ → α × σ

namespace Source

variable {α σ : Type}

/-- The source that always hands out the same sample. -/
def constant (sample : α) : Source α Unit := ⟨fun _ => (sample, ())⟩

/-- The source that hands out the samples of a stream in order, from a position on. -/
def stream (samples : Nat → α) : Source α Nat := ⟨fun k => (samples k, k + 1)⟩

/-- The same source with a count of the samples drawn. -/
def counted (source : Source α σ) : Source α (σ × Nat) :=
  ⟨fun (s, drawn) => let (sample, s') := source.next s; (sample, (s', drawn + 1))⟩

def take (source : Source α σ) : Nat → σ → List α × σ
  | 0, s => ([], s)
  | n + 1, s =>
    let (sample, s') := source.next s
    let (samples, s'') := source.take n s'
    (sample :: samples, s'')

end Source

/-- The angle moved by at most `variance` either way, as far as `sample` says. -/
def jittered {α : Type} [Scalar α] (angle variance sample : α) : α :=
  angle + (sample - half) * 2 * variance

end PlantGrowth
