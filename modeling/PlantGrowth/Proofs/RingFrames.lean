import Mathlib.Analysis.Real.Pi.Bounds
import PlantGrowth.Proofs.RigidRotations
import PlantGrowth.Space.Frame

/-!
# Frames along a chain of rings

The rotation that carries a frame from ring to ring is rigid, so the axis keeps its length and its
angle to the direction that the rotation makes of the old one.  On the arc this is the new
direction.  Off the arc it misses the new direction by a gap, the axis tilts by as much, and
nothing takes the tilt back later: a branch that bends little enough at each ring keeps the axis
that it began with, until that lies along the branch.
-/

namespace PlantGrowth

open Rotation (offArc gap)

namespace RingFrame

section

variable {α : Type} [Scalar α]

/-- The frame of the last ring of a chain. -/
def along (f : RingFrame α) (forwards : List (Vec3 α)) : RingFrame α := forwards.foldl transport f

/-- The steps of a chain, from the direction `a` on, that are not turned along an arc. -/
def offArcs (a : Vec3 α) : List (Vec3 α) → Nat
  | [] => 0
  | b :: rest => (if offArc a b then 1 else 0) + offArcs b rest

theorem along_append (f : RingFrame α) (forwards : List (Vec3 α)) (v : Vec3 α) :
    f.along (forwards ++ [v]) = (f.along forwards).transport v := by
  simp [along]

end

/-- Both directions of the frame are of length one, and the axis is tilted by `n` gaps at most. -/
structure TiltedBy (f : RingFrame ℝ) (n : ℕ) : Prop where
  forward : f.forward.IsUnit
  axis : f.axis.IsUnit
  tilt : |f.axis.dot f.forward| ≤ n * gap

variable {f : RingFrame ℝ} {q : Rotation ℝ} {v : Vec3 ℝ} {n : ℕ} {forwards : List (Vec3 ℝ)}

theorem initial_eq (hq : q.IsUnit) : initial q = ⟨q.apply Vec3.unitY, q.apply Vec3.unitX⟩ := by
  rw [initial, (hq.apply Vec3.isUnit_unitY).normalize_eq, (hq.apply Vec3.isUnit_unitX).normalize_eq]

theorem tiltedBy_initial (hq : q.IsUnit) : (initial q).TiltedBy 0 := by
  rw [initial_eq hq]
  refine ⟨hq.apply Vec3.isUnit_unitY, hq.apply Vec3.isUnit_unitX, ?_⟩
  have hacross : Vec3.dot (Vec3.unitX : Vec3 ℝ) Vec3.unitY = 0 := by
    simp [Vec3.dot, Vec3.unitX, Vec3.unitY, zero_real, one_real]
  simp [hq.dot_apply, hacross]

theorem transport_eq (hf : f.forward.IsUnit) (haxis : f.axis.IsUnit) (hv : v.IsUnit) :
    f.transport v = ⟨v, (Rotation.arcBetween f.forward v).apply f.axis⟩ := by
  have harc := Rotation.isUnit_arcBetween hf hv
  simp only [transport, Rotation.shortestArc, hv.normalize_eq, hf.normalize_eq,
    (harc.apply haxis).normalize_eq]

theorem TiltedBy.transport (h : f.TiltedBy n) (hv : v.IsUnit) :
    (f.transport v).TiltedBy (n + if offArc f.forward v then 1 else 0) := by
  have harc := Rotation.isUnit_arcBetween h.forward hv
  rw [transport_eq h.forward h.axis hv]
  refine ⟨hv, harc.apply h.axis, ?_⟩
  have hkept := harc.dot_apply f.axis f.forward
  cases hoff : offArc f.forward v with
  | false =>
      -- on the arc the old direction is carried to the new one
      rw [Rotation.apply_arcBetween h.forward hv hoff] at hkept
      simpa [hkept] using h.tilt
  | true =>
      -- the axis keeps its angle to a direction that misses the new one by the gap
      have hgap := Rotation.missed_le_gap h.forward hv
      have hmissed := ((harc.apply h.axis).abs_dot_le _).trans hgap
      rw [Vec3.dot_sub, hkept] at hmissed
      calc |((Rotation.arcBetween f.forward v).apply f.axis).dot v|
          ≤ |((Rotation.arcBetween f.forward v).apply f.axis).dot v - f.axis.dot f.forward| +
              |f.axis.dot f.forward| := by
            simpa using abs_add_le
              (((Rotation.arcBetween f.forward v).apply f.axis).dot v - f.axis.dot f.forward)
              (f.axis.dot f.forward)
        _ ≤ gap + n * gap := add_le_add hmissed h.tilt
        _ = (n + 1 : ℕ) * gap := by
            push_cast
            ring

theorem TiltedBy.along (h : f.TiltedBy n) (hunit : ∀ v ∈ forwards, v.IsUnit) :
    (f.along forwards).TiltedBy (n + offArcs f.forward forwards) := by
  induction forwards generalizing f n with
  | nil => exact h
  | cons v rest ih =>
      have hv := hunit v List.mem_cons_self
      have hnext := ih (h.transport hv) fun w hw => hunit w (List.mem_cons_of_mem v hw)
      have hforward : (f.transport v).forward = v := by rw [transport_eq h.forward h.axis hv]
      rw [hforward, Nat.add_assoc] at hnext
      exact hnext

theorem fourteen_gaps_le : 14 * gap ≤ 1 / 100 := by
  have hgap : gap ≤ 1 / 1400 := by
    rw [gap, Real.sqrt_le_left (by norm_num)]
    norm_num
  linarith

/-- However long a chain is, its frames have directions of length one, and the axis is tilted
against the direction of the ring only by the steps off the arc: by a gap for each of them at most.
So it is nearly across the ring as long as there are no more than fourteen of them. -/
theorem frames_tilt_by_gaps {q : Rotation ℝ} (hq : q.IsUnit) {forwards : List (Vec3 ℝ)}
    (hunit : ∀ v ∈ forwards, v.IsUnit) :
    let f := (initial q).along forwards
    let steps := offArcs (initial q).forward forwards
    f.axis.dot f.axis = 1 ∧ f.forward.dot f.forward = 1 ∧
      |f.axis.dot f.forward| ≤ steps * gap ∧
      (steps ≤ 14 → |f.axis.dot f.forward| ≤ 1 / 100) := by
  have h := (tiltedBy_initial hq).along hunit
  rw [Nat.zero_add] at h
  refine ⟨h.axis, h.forward, h.tilt, ?_⟩
  intro hsteps
  have hcast : (offArcs (initial q).forward forwards : ℝ) ≤ 14 := by exact_mod_cast hsteps
  calc |((initial q).along forwards).axis.dot ((initial q).along forwards).forward|
      ≤ offArcs (initial q).forward forwards * gap := h.tilt
    _ ≤ 14 * gap := mul_le_mul_of_nonneg_right hcast (Real.sqrt_nonneg _)
    _ ≤ 1 / 100 := fourteen_gaps_le

theorem frames_tilt_by_gaps_right_angle :
    let forwards : List (Vec3 ℝ) := [Vec3.unitY, Vec3.unitX]
    let f := (initial Rotation.identity).along forwards
    (Rotation.identity : Rotation ℝ).IsUnit ∧ (∀ v ∈ forwards, v.IsUnit) ∧
      f.axis.dot f.axis = 1 ∧ |f.axis.dot f.forward| ≤ 1 / 100 := by
  intro forwards f
  have hunit : ∀ v ∈ forwards, v.IsUnit := by
    simp [forwards, Vec3.isUnit_unitX, Vec3.isUnit_unitY]
  obtain ⟨haxis, _, _, htilt⟩ := frames_tilt_by_gaps Rotation.isUnit_identity hunit
  refine ⟨Rotation.isUnit_identity, hunit, haxis, htilt ?_⟩
  simp only [forwards, offArcs]
  split <;> split <;> simp

/-! ## Bending without turning the axis -/

/-- The direction at the angle `x` from the axis of the stick. -/
noncomputable def bend (x : ℝ) : Vec3 ℝ := ⟨-Real.sin x, Real.cos x, 0⟩

/-- A chain of `n` directions that bend by `θ` at every ring. -/
noncomputable def bends (θ : ℝ) (n : ℕ) : List (Vec3 ℝ) :=
  (List.range n).map fun k => bend ((k + 1 : ℕ) * θ)

theorem isUnit_bend (x : ℝ) : (bend x).IsUnit := by
  simp only [Vec3.IsUnit, Vec3.dot, bend]
  linear_combination Real.sin_sq_add_cos_sq x

theorem dot_bend (x y : ℝ) : (bend x).dot (bend y) = Real.cos (y - x) := by
  rw [Real.cos_sub]
  simp only [Vec3.dot, bend]
  ring

theorem transport_bend {x y : ℝ} (hsmall : Rotation.parallelBound < Real.cos (y - x)) :
    transport ⟨bend x, Vec3.unitX⟩ (bend y) = ⟨bend y, Vec3.unitX⟩ := by
  rw [transport_eq (isUnit_bend x) Vec3.isUnit_unitX (isUnit_bend y)]
  simp only [Rotation.arcBetween, dot_bend, Scalar.lt, hsmall, decide_true, if_true,
    Rotation.apply_identity]

/-- As long as each ring bends little enough, the axis stays as it began. -/
theorem along_bends {θ : ℝ} (hsmall : Rotation.parallelBound < Real.cos θ) (n : ℕ) :
    along ⟨bend 0, Vec3.unitX⟩ (bends θ n) = ⟨bend (n * θ), Vec3.unitX⟩ := by
  induction n with
  | zero => simp [bends, along]
  | succ n ih =>
      have hlast : bends θ (n + 1) = bends θ n ++ [bend ((n + 1 : ℕ) * θ)] := by
        simp [bends, List.range_succ]
      have hstep : ((n + 1 : ℕ) : ℝ) * θ - n * θ = θ := by
        push_cast
        ring
      rw [hlast, along_append, ih]
      exact transport_bend (by rwa [hstep])

theorem parallelBound_lt_cos {θ : ℝ} (hθ : θ ^ 2 < 4 / 8388608) :
    Rotation.parallelBound < Real.cos θ := by
  have hcos : 1 - θ ^ 2 / 2 ≤ Real.cos θ := Real.one_sub_sq_div_two_le_cos
  rw [Rotation.parallelBound_real]
  linarith

theorem isUnit_of_mem_bends {θ : ℝ} {n : ℕ} {v : Vec3 ℝ} (hv : v ∈ bends θ n) : v.IsUnit := by
  obtain ⟨k, _, rfl⟩ := List.mem_map.mp hv
  exact isUnit_bend _

theorem initial_identity : initial (Rotation.identity : Rotation ℝ) = ⟨bend 0, Vec3.unitX⟩ := by
  rw [initial_eq Rotation.isUnit_identity, Rotation.apply_identity, Rotation.apply_identity]
  simp [bend, Vec3.unitY, zero_real, one_real]

theorem hundred_bends_tilt_axis :
    let forwards := bends (1 / 5000) 100
    let f := (initial Rotation.identity).along forwards
    (Rotation.identity : Rotation ℝ).IsUnit ∧ (∀ v ∈ forwards, v.IsUnit) ∧
      1 / 100 < |f.axis.dot f.forward| := by
  have hend := along_bends (parallelBound_lt_cos (θ := 1 / 5000) (by norm_num)) 100
  have hangle : ((100 : ℕ) : ℝ) * (1 / 5000) = 1 / 50 := by norm_num
  have hsin : 1 / 50 - (1 / 50) ^ 3 / 6 < Real.sin (1 / 50) :=
    Real.sin_gt_sub_cube (by norm_num)
  refine ⟨Rotation.isUnit_identity, fun v hv => isUnit_of_mem_bends hv, ?_⟩
  rw [initial_identity, hend, hangle]
  simp only [Vec3.dot, Vec3.unitX, bend, zero_real, one_real, one_mul, zero_mul, add_zero, abs_neg]
  have habs := le_abs_self (Real.sin (1 / 50))
  norm_num at hsin
  linarith

/-- A quarter of a turn in small bends lays the axis along the branch: the ring is flat and has no
binormal. -/
theorem small_bends_flatten_ring :
    let f := (initial Rotation.identity).along (bends (Real.pi / 4600) 2300)
    f.axis.dot f.forward = -1 ∧ f.forward.cross f.axis = Vec3.zero := by
  have hsmall : (Real.pi / 4600) ^ 2 < 4 / 8388608 := by
    have hpi : Real.pi / 4600 < 3.15 / 4600 := by linarith [Real.pi_lt_d2]
    have hpos : 0 < Real.pi / 4600 := by positivity
    calc (Real.pi / 4600) ^ 2 < (3.15 / 4600) ^ 2 := by gcongr
      _ < 4 / 8388608 := by norm_num
  have hend := along_bends (parallelBound_lt_cos hsmall) 2300
  have hangle : ((2300 : ℕ) : ℝ) * (Real.pi / 4600) = Real.pi / 2 := by
    push_cast
    ring
  have hturned : bend (Real.pi / 2) = ⟨-1, 0, 0⟩ := by
    rw [bend, Real.sin_pi_div_two, Real.cos_pi_div_two]
  rw [initial_identity, hend, hangle, hturned]
  constructor
  · simp [Vec3.dot, Vec3.unitX, one_real]
  · ext <;> simp [Vec3.cross, Vec3.unitX, Vec3.zero, zero_real]

end RingFrame

end PlantGrowth
