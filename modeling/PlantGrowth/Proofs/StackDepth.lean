import PlantGrowth.Proofs.Meaning
import Mathlib.Data.Nat.Cast.Order.Ring
import Mathlib.Order.Bounds.Basic
import Mathlib.Order.Interval.Set.Basic

/-!
# How deep the stack is

A `pop` without a `push` of its own closes nothing, so the stack does not count the brackets of a
word one against the other.  It counts from the lowest position so far: what has been closed below
that was never open.  The depth of the stack at a position is the height of the position over the
lowest one before it.
-/

namespace PlantGrowth

namespace Brackets

/-- The least height of a position up to `i`. -/
def lowest (commands : List Command) : Nat → Int
  | 0 => 0
  | i + 1 => min (lowest commands i) (height commands (i + 1))

variable {commands : List Command} {i : Nat}

theorem lowest_le_height (commands : List Command) (i : Nat) :
    lowest commands i ≤ height commands i := by
  cases i with
  | zero => exact le_refl _
  | succ i => exact min_le_right _ _

theorem lowest_eq_zero {n : Nat} (hlow : ∀ k ≤ n, 0 ≤ height commands k) (hi : i ≤ n) :
    lowest commands i = 0 := by
  induction i with
  | zero => rfl
  | succ i ih => rw [lowest, ih (Nat.le_of_succ_le hi), min_eq_left (hlow (i + 1) hi)]

theorem image_Iic_succ (f : Nat → Int) (i : Nat) :
    f '' Set.Iic (i + 1) = insert (f (i + 1)) (f '' Set.Iic i) := by
  rw [← Set.image_insert_eq]
  apply congrArg (f '' ·)
  ext k
  simp only [Set.mem_Iic, Set.mem_insert_iff]
  omega

theorem lowest_isLeast (commands : List Command) (i : Nat) :
    IsLeast (height commands '' Set.Iic i) (lowest commands i) := by
  induction i with
  | zero =>
      have hstart : height commands '' Set.Iic 0 = {0} := by
        simp [Set.Iic, height]
      rw [hstart]
      exact isLeast_singleton
  | succ i ih =>
      rw [image_Iic_succ, lowest, min_comm]
      exact ih.insert _

theorem lowest_succ_of_le (h : lowest commands i ≤ height commands (i + 1)) :
    lowest commands (i + 1) = lowest commands i :=
  min_eq_left h

end Brackets

open Brackets

variable {α β σ : Type} [Scalar α]

namespace Setting

variable {S : Setting α β σ}

/-- The stack of the walk is as deep as position `i` is high. -/
def DeepAt (S : Setting α β σ) (i : Nat) (w : Walk α β σ) : Prop :=
  (w.stack.length : Int) = height S.commands i - lowest S.commands i

theorem deepAt_after {v : Visit α β σ} (hv : v ∈ S.course) (hdeep : S.DeepAt v.index v.walk) :
    S.DeepAt (v.index + 1) (v.after S) := by
  have hcommand := command_at_index hv
  have hlow := lowest_le_height S.commands v.index
  unfold DeepAt at hdeep ⊢
  rw [Visit.after_stack]
  cases hc : v.command with
  | push =>
      have hup := height_succ_of_push (hc ▸ hcommand)
      rw [lowest_succ_of_le (by omega)]
      simp only [List.length_cons, Nat.cast_add, Nat.cast_one]
      omega
  | pop =>
      have hdown := height_succ_of_pop (hc ▸ hcommand)
      cases hstack : v.walk.stack with
      | nil =>
          -- nothing is open, so the walk descends to a new lowest position
          simp only [hstack, List.length_nil, Nat.cast_zero] at hdeep
          rw [lowest, min_eq_right (by omega)]
          simp
      | cons saved outer =>
          simp only [hstack, List.length_cons, Nat.cast_add, Nat.cast_one] at hdeep
          rw [lowest_succ_of_le (by omega)]
          simp only [List.tail_cons]
          omega
  | _ =>
      have hlevel := height_succ_of_rise_eq_zero hcommand (by rw [hc]; rfl)
      rw [lowest_succ_of_le (by omega)]
      simp only
      omega

theorem deepAt_of_mem {v : Visit α β σ} (hv : v ∈ S.course) : S.DeepAt v.index v.walk :=
  kept_of_mem (P := S.DeepAt) rfl (fun _ => deepAt_after) hv

theorem deepAt_tour (S : Setting α β σ) : S.DeepAt S.course.length S.tour.walk :=
  kept_tour (P := S.DeepAt) rfl fun _ => deepAt_after

/-! ## The deepest stack -/

theorem after_maxDepth_eq_max {v : Visit α β σ} (hle : v.walk.stack.length ≤ v.walk.maxDepth) :
    (v.after S).maxDepth = max (v.after S).stack.length v.walk.maxDepth := by
  rw [Visit.after_maxDepth, Visit.after_stack, Visit.depth?]
  cases v.command with
  | push => simp [max_comm]
  | pop => simpa using Nat.le_succ_of_le hle
  | _ => simp [hle]

/-- The stack of the walk is as deep as position `i` is high, and it was never deeper than at the
deepest position so far. -/
structure DeepestAt (S : Setting α β σ) (i : Nat) (w : Walk α β σ) : Prop where
  deep : S.DeepAt i w
  deepest : IsGreatest
    ((fun k => height S.commands k - lowest S.commands k) '' Set.Iic i) (w.maxDepth : Int)

theorem deepestAt_start : S.DeepestAt 0 S.start := by
  refine ⟨rfl, ?_⟩
  have hstart : (fun k => height S.commands k - lowest S.commands k) '' Set.Iic 0 = {0} := by
    simp [Set.Iic, height, lowest]
  rw [hstart]
  exact isGreatest_singleton

theorem deepestAt_after {v : Visit α β σ} (hv : v ∈ S.course)
    (h : S.DeepestAt v.index v.walk) : S.DeepestAt (v.index + 1) (v.after S) := by
  have hdeep := deepAt_after hv h.deep
  have hle : v.walk.stack.length ≤ v.walk.maxDepth := by
    have hbound := h.deepest.2 ⟨v.index, Set.mem_Iic.mpr (le_refl _), h.deep.symm⟩
    exact_mod_cast hbound
  refine ⟨hdeep, ?_⟩
  rw [after_maxDepth_eq_max hle, Nat.cast_max, hdeep, image_Iic_succ]
  exact h.deepest.insert _

theorem tour_maxDepth_isGreatest (S : Setting α β σ) :
    IsGreatest ((fun k => height S.commands k - lowest S.commands k) '' Set.Iic S.course.length)
      (S.tour.walk.maxDepth : Int) :=
  (kept_tour deepestAt_start fun _ => deepestAt_after).deepest

theorem tour_maxDepth_le {n : Nat}
    (hn : ∀ i ≤ S.commands.length, height S.commands i - lowest S.commands i ≤ n) :
    S.tour.walk.maxDepth ≤ n := by
  obtain ⟨i, hi, hdepth⟩ := S.tour_maxDepth_isGreatest.1
  have htotal := length_course_add_skipped (S := S)
  have hbound := hn i ((Set.mem_Iic.mp hi).trans (by omega))
  simp only at hdepth
  omega

end Setting

end PlantGrowth
