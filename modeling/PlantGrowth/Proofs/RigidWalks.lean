import PlantGrowth.Proofs.Course
import PlantGrowth.Proofs.RigidRotations

/-!
# Walks without stretching

In exact arithmetic the turtle turns by unit quaternions about unit axes and is normalized after
each turn, so that it is a unit quaternion at every visit, as is every turtle that a branch has
saved.  None of the commands changes the step.  So all segments of a plant are of one length,
along a heading of length one.
-/

namespace PlantGrowth

variable {β σ : Type}

theorem Axis.isUnit_direction (axis : Axis) : (axis.direction : Vec3 ℝ).IsUnit := by
  cases axis with
  | yaw => exact Vec3.isUnit_unitZ
  | pitch => exact Vec3.isUnit_unitX
  | roll => exact Vec3.isUnit_unitY

/-- The turtle is turned by a unit quaternion and goes on by the step. -/
structure Turtle.Rigid (step : ℝ) (t : Turtle ℝ) : Prop where
  isUnit : t.orientation.IsUnit
  step_eq : t.step = step

structure Walk.Rigid (step : ℝ) (w : Walk ℝ β σ) : Prop where
  turtle : w.turtle.Rigid step
  stack : ∀ t ∈ w.stack, t.Rigid step

/-- The segment has the length of the step, by its two ends as by its own account. -/
structure Segment.Rigid (step : ℝ) (s : Segment ℝ) : Prop where
  heading_isUnit : s.heading.IsUnit
  length_eq : s.length = step
  span_eq : (s.stop - s.start).dot (s.stop - s.start) = step ^ 2

variable {step : ℝ}

namespace Turtle.Rigid

variable {t : Turtle ℝ}

theorem atOrigin (step width : ℝ) : (Turtle.atOrigin step width).Rigid step :=
  ⟨Rotation.isUnit_identity, rfl⟩

theorem rotate (h : t.Rigid step) {axis : Vec3 ℝ} (haxis : axis.IsUnit) (angle : ℝ) :
    (t.rotate axis angle).Rigid step :=
  ⟨h.isUnit.normalize_mul (Rotation.isUnit_aboutAxis haxis angle), h.step_eq⟩

theorem segment (h : t.Rigid step) (run : TaperRun ℝ) : (Walk.segment t run).Rigid step := by
  have hheading : t.heading.IsUnit := h.isUnit.apply Vec3.isUnit_unitY
  refine ⟨hheading, h.step_eq, ?_⟩
  have hway : (Walk.segment t run).stop - (Walk.segment t run).start = t.heading.scale step := by
    ext <;> simp [Walk.segment, h.step_eq]
  rw [hway, Vec3.dot_scale, Vec3.dot_comm, Vec3.dot_scale, hheading.dot_self]
  ring

end Turtle.Rigid

namespace Walk.Rigid

variable {w : Walk ℝ β σ} (h : w.Rigid step)

include h

theorem draw (habit : Habit ℝ) (builder : Builder ℝ β) (index : Nat) (ahead : List Command) :
    (w.draw habit builder index ahead).Rigid step :=
  ⟨⟨h.turtle.isUnit, h.turtle.step_eq⟩, h.stack⟩

theorem sprout (habit : Habit ℝ) (source : Source ℝ σ) (rest : List Command) :
    (w.sprout habit source rest).Rigid step := by
  rw [Walk.sprout_eq]
  exact ⟨h.turtle, h.stack⟩

theorem turn (habit : Habit ℝ) (source : Source ℝ σ) (axis : Axis) (positive : Bool) :
    (w.turn habit source axis positive).Rigid step :=
  ⟨h.turtle.rotate axis.isUnit_direction _, h.stack⟩

theorem turnAround : w.turnAround.Rigid step :=
  ⟨h.turtle.rotate Vec3.isUnit_unitZ _, h.stack⟩

theorem mark (habit : Habit ℝ) (index : Nat) : (w.mark habit index).Rigid step := by
  rw [Walk.mark_eq]
  exact ⟨⟨h.turtle.isUnit, h.turtle.step_eq⟩, h.stack⟩

theorem push : w.push.Rigid step := by
  refine ⟨⟨h.turtle.isUnit, h.turtle.step_eq⟩, ?_⟩
  intro t ht
  rcases List.mem_cons.mp ht with rfl | ht
  · exact h.turtle
  · exact h.stack t ht

theorem pop : w.pop.Rigid step := by
  rw [Walk.pop_eq]
  constructor
  · cases hstack : w.stack with
    | nil => exact ⟨h.turtle.isUnit, h.turtle.step_eq⟩
    | cons saved outer => exact h.stack saved (by simp [hstack])
  · intro t ht
    exact h.stack t (List.mem_of_mem_tail ht)

end Walk.Rigid

namespace Visit

variable {S : Setting ℝ β σ} {v : Visit ℝ β σ}

theorem after_rigid (h : v.walk.Rigid step) : (v.after S).Rigid step := by
  unfold after Walk.step
  cases v.command with
  | forward => exact h.draw S.habit S.builder v.index _
  | leaf => exact h.sprout S.habit S.source v.rest
  | turn axis positive => exact h.turn S.habit S.source axis positive
  | turnAround => exact h.turnAround
  | taperMark => exact h.mark S.habit v.index
  | push => exact h.push
  | pop => exact h.pop
  | noop => exact h

end Visit

namespace Setting

variable {S : Setting ℝ β σ}

theorem start_rigid (S : Setting ℝ β σ) : S.start.Rigid S.habit.stepLength := by
  have horigin := Turtle.Rigid.atOrigin S.habit.stepLength S.habit.baseWidth
  refine ⟨⟨horigin.isUnit, horigin.step_eq⟩, ?_⟩
  intro t ht
  cases ht

theorem rigid_of_mem {v : Visit ℝ β σ} (hv : v ∈ S.course) : v.walk.Rigid S.habit.stepLength :=
  kept_of_mem (P := fun _ w => w.Rigid S.habit.stepLength) (start_rigid S)
    (fun _ _ h => Visit.after_rigid h) hv

theorem tour_rigid (S : Setting ℝ β σ) : S.tour.walk.Rigid S.habit.stepLength :=
  kept_tour (P := fun _ w => w.Rigid S.habit.stepLength) (start_rigid S)
    (fun _ _ h => Visit.after_rigid h)

/-- At every visit and at the end the turtle and all saved ones are turned by unit quaternions, and
every segment goes by the step length along a heading of length one. -/
theorem walks_turn_rigidly (S : Setting ℝ β σ) :
    (∀ v ∈ S.course, v.walk.turtle.orientation.IsUnit ∧
        ∀ t ∈ v.walk.stack, t.orientation.IsUnit) ∧
      (S.tour.walk.turtle.orientation.IsUnit ∧
        ∀ t ∈ S.tour.walk.stack, t.orientation.IsUnit) ∧
      ∀ s ∈ S.segments,
        (s.stop - s.start).dot (s.stop - s.start) = S.habit.stepLength ^ 2 ∧
          s.heading.IsUnit ∧ s.length = S.habit.stepLength := by
  refine ⟨?_, ?_, ?_⟩
  · intro v hv
    have hrigid := rigid_of_mem hv
    exact ⟨hrigid.turtle.isUnit, fun t ht => (hrigid.stack t ht).isUnit⟩
  · have hrigid := tour_rigid S
    exact ⟨hrigid.turtle.isUnit, fun t ht => (hrigid.stack t ht).isUnit⟩
  · intro s hs
    rw [segments_eq_map_draws] at hs
    obtain ⟨v, hv, rfl⟩ := List.mem_map.mp hs
    have hrigid : (v.segment S).Rigid S.habit.stepLength :=
      (rigid_of_mem (List.mem_of_mem_filter hv)).turtle.segment (v.taperRun S)
    exact ⟨hrigid.span_eq, hrigid.heading_isUnit, hrigid.length_eq⟩

end Setting

end PlantGrowth
