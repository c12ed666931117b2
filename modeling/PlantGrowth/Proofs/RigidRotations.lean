import Mathlib.Analysis.SpecialFunctions.Trigonometric.Basic
import Mathlib.Tactic.Linarith
import Mathlib.Tactic.LinearCombination
import Mathlib.Tactic.NormNum
import PlantGrowth.Proofs.ExactArithmetic
import PlantGrowth.Space.Rotation

/-!
# Rigid rotations

In exact arithmetic a unit quaternion turns space without stretching it.  The shortest rotation
from one direction to another is such a quaternion, but it takes the one to the other only when
they are neither nearly parallel nor nearly opposite: off the arc between the two bounds the
program turns by nothing or by half a turn, and what is left of the way is below a fixed gap.
-/

namespace PlantGrowth

/-! Numerals of the formulas are those of the reals; from two on they are so by definition. -/

theorem zero_real : @OfNat.ofNat ℝ 0 Scalar.instOfNat = 0 := Nat.cast_zero

theorem one_real : @OfNat.ofNat ℝ 1 Scalar.instOfNat = 1 := Nat.cast_one

theorem half_real : (Scalar.half : ℝ) = 1 / 2 := by
  simp [Scalar.half, Scalar.ratio, Scalar.ofNat_real]

attribute [ext] Vec3

namespace Vec3

variable {v w : Vec3 ℝ}

@[simp] theorem add_x (v w : Vec3 ℝ) : (v + w).x = v.x + w.x := rfl

@[simp] theorem add_y (v w : Vec3 ℝ) : (v + w).y = v.y + w.y := rfl

@[simp] theorem add_z (v w : Vec3 ℝ) : (v + w).z = v.z + w.z := rfl

@[simp] theorem sub_x (v w : Vec3 ℝ) : (v - w).x = v.x - w.x := rfl

@[simp] theorem sub_y (v w : Vec3 ℝ) : (v - w).y = v.y - w.y := rfl

@[simp] theorem sub_z (v w : Vec3 ℝ) : (v - w).z = v.z - w.z := rfl

def IsUnit (v : Vec3 ℝ) : Prop := v.dot v = 1

theorem IsUnit.dot_self (h : v.IsUnit) : v.dot v = 1 := h

theorem IsUnit.sum_sq (h : v.IsUnit) : v.x * v.x + v.y * v.y + v.z * v.z = 1 := h

theorem isUnit_unitX : (unitX : Vec3 ℝ).IsUnit := by
  simp [IsUnit, unitX, dot, zero_real, one_real]

theorem isUnit_unitY : (unitY : Vec3 ℝ).IsUnit := by
  simp [IsUnit, unitY, dot, zero_real, one_real]

theorem isUnit_unitZ : (unitZ : Vec3 ℝ).IsUnit := by
  simp [IsUnit, unitZ, dot, zero_real, one_real]

theorem IsUnit.normalize_eq (h : v.IsUnit) : v.normalize = v := by
  simp only [normalize, length, scale, h.dot_self, Scalar.sqrt, Real.sqrt_one,
    one_real, div_one, mul_one]

theorem scale_scale_one_div {r : ℝ} (hr : r ≠ 0) (v : Vec3 ℝ) : (v.scale r).scale (1 / r) = v := by
  ext <;> simp only [scale, mul_assoc, mul_one_div_cancel hr, mul_one]

theorem dot_comm (v w : Vec3 ℝ) : v.dot w = w.dot v := by
  simp only [dot]
  ring

theorem dot_sub (v a b : Vec3 ℝ) : v.dot (a - b) = v.dot a - v.dot b := by
  simp only [dot, sub_x, sub_y, sub_z]
  ring

theorem dot_sub_self (v w : Vec3 ℝ) :
    (v - w).dot (v - w) = v.dot v + w.dot w - 2 * v.dot w := by
  simp only [dot, sub_x, sub_y, sub_z]
  ring

theorem dot_scale (v w : Vec3 ℝ) (r : ℝ) : v.dot (w.scale r) = v.dot w * r := by
  simp only [dot, scale]
  ring

theorem dot_sq_add_cross (v w : Vec3 ℝ) :
    v.dot w ^ 2 + (v.cross w).dot (v.cross w) = v.dot v * w.dot w := by
  simp only [dot, cross]
  ring

theorem dot_self_nonneg (v : Vec3 ℝ) : 0 ≤ v.dot v := by
  have hxy := add_nonneg (mul_self_nonneg v.x) (mul_self_nonneg v.y)
  exact add_nonneg hxy (mul_self_nonneg v.z)

theorem IsUnit.abs_dot_le (h : v.IsUnit) (w : Vec3 ℝ) : |v.dot w| ≤ √(w.dot w) := by
  apply Real.abs_le_sqrt
  have hsum := dot_sq_add_cross v w
  have hcross := dot_self_nonneg (v.cross w)
  rw [h] at hsum
  linarith

theorem sign_mul_self (x : ℝ) : (Scalar.sign x : ℝ) * Scalar.sign x = 1 := by
  simp only [Scalar.sign]
  split <;> norm_num

theorem sign_add_ne_zero (x : ℝ) : (Scalar.sign x : ℝ) + x ≠ 0 := by
  simp only [Scalar.sign]
  split
  · linarith
  · linarith

theorem IsUnit.perpendicular (h : v.IsUnit) :
    v.perpendicular.IsUnit ∧ v.dot v.perpendicular = 0 := by
  have hsign := sign_mul_self v.z
  have hquotient := div_mul_cancel₀ (-1 : ℝ) (sign_add_ne_zero v.z)
  have hlength := h.sum_sq
  simp only [IsUnit, Vec3.perpendicular, dot, one_real]
  -- of the sign and of the quotient only these two equations are used
  generalize (Scalar.sign v.z : ℝ) = s at *
  generalize -1 / (s + v.z) = r at *
  constructor
  · linear_combination v.y ^ 2 * r ^ 2 * hlength + (1 - v.y ^ 2 * r ^ 2) * hsign +
      (v.y ^ 2 * r * (s - v.z) + v.y ^ 2) * hquotient
  · linear_combination v.y * r * hlength - v.y * r * hsign + v.y * (s - v.z) * hquotient

end Vec3

namespace Rotation

open Vec3

variable {q : Rotation ℝ} {a b v w : Vec3 ℝ}

def IsUnit (q : Rotation ℝ) : Prop := q.normSq = 1

theorem dot_apply (q : Rotation ℝ) (v w : Vec3 ℝ) :
    (q.apply v).dot (q.apply w) = q.normSq ^ 2 * v.dot w := by
  simp only [apply, normSq, dot, cross, scale, add_x, add_y, add_z]
  ring

theorem IsUnit.dot_apply (h : q.IsUnit) (v w : Vec3 ℝ) :
    (q.apply v).dot (q.apply w) = v.dot w := by
  rw [Rotation.dot_apply, h]
  ring

theorem IsUnit.apply (h : q.IsUnit) (hv : v.IsUnit) : (q.apply v).IsUnit := by
  rw [Vec3.IsUnit, h.dot_apply, hv]

theorem isUnit_identity : (identity : Rotation ℝ).IsUnit := by
  simp [IsUnit, identity, normSq, zero_real, one_real]

theorem apply_identity (v : Vec3 ℝ) : identity.apply v = v := by
  ext <;>
    simp only [apply, identity, dot, cross, scale, add_x, add_y, add_z, zero_real, one_real] <;>
    ring

theorem normSq_nonneg (q : Rotation ℝ) : 0 ≤ q.normSq := by
  have hxz := add_nonneg (mul_self_nonneg q.x) (mul_self_nonneg q.z)
  have hyw := add_nonneg (mul_self_nonneg q.y) (mul_self_nonneg q.w)
  exact add_nonneg hxz hyw

theorem normalize_eq (q : Rotation ℝ) :
    ∃ r : ℝ, r * r = 1 / q.normSq ∧ q.normalize = ⟨q.x * r, q.y * r, q.z * r, q.w * r⟩ := by
  refine ⟨(√q.normSq)⁻¹, ?_, rfl⟩
  rw [← mul_inv, Real.mul_self_sqrt q.normSq_nonneg, one_div]

theorem isUnit_normalize (h : q.normSq ≠ 0) : q.normalize.IsUnit := by
  obtain ⟨r, hr, heq⟩ := q.normalize_eq
  have hscaled : q.normalize.normSq = q.normSq * (r * r) := by
    rw [heq]
    simp only [normSq]
    ring
  rw [IsUnit, hscaled, hr, mul_one_div_cancel h]

theorem apply_normalize (q : Rotation ℝ) (v : Vec3 ℝ) :
    q.normalize.apply v = (q.apply v).scale (1 / q.normSq) := by
  obtain ⟨r, hr, heq⟩ := q.normalize_eq
  rw [← hr, heq]
  ext <;> simp only [apply, dot, cross, scale, add_x, add_y, add_z] <;> ring

/-! ## Turning further -/

theorem normSq_mul (q r : Rotation ℝ) : (q * r).normSq = q.normSq * r.normSq := by
  change (compose q r).normSq = _
  simp only [compose, normSq]
  ring

theorem isUnit_aboutAxis (hv : v.IsUnit) (angle : ℝ) : (aboutAxis v angle).IsUnit := by
  have hcircle : Real.sin (angle * Scalar.half) ^ 2 + Real.cos (angle * Scalar.half) ^ 2 = 1 :=
    Real.sin_sq_add_cos_sq _
  simp only [IsUnit, normSq, aboutAxis, Scalar.sin, Scalar.cos]
  linear_combination Real.sin (angle * Scalar.half) ^ 2 * hv.sum_sq + hcircle

theorem IsUnit.normalize_mul {r : Rotation ℝ} (hq : q.IsUnit) (hr : r.IsUnit) :
    (q * r).normalize.IsUnit := by
  apply isUnit_normalize
  rw [normSq_mul, hq, hr, mul_one]
  exact one_ne_zero

/-! ## The shortest arc -/

theorem parallelBound_real : (parallelBound : ℝ) = 1 - 2 / 8388608 := by
  simp only [parallelBound, Scalar.ratio, Scalar.ofNat_real, one_real]
  norm_num

/-- Whether two directions are so nearly parallel or opposite that no arc between them is used. -/
def offArc {α : Type} [Scalar α] (a b : Vec3 α) : Bool :=
  Scalar.lt parallelBound (a.dot b) || Scalar.lt (a.dot b) (-parallelBound)

theorem offArc_eq_true_iff {a b : Vec3 ℝ} :
    offArc a b = true ↔ parallelBound < a.dot b ∨ a.dot b < -parallelBound := by
  simp [offArc, Scalar.lt]

theorem aboutAxis_pi (v : Vec3 ℝ) : aboutAxis v Scalar.pi = ⟨v.x, v.y, v.z, 0⟩ := by
  have hhalf : (Scalar.pi : ℝ) * Scalar.half = Real.pi / 2 := by
    rw [half_real, mul_one_div]
    rfl
  simp only [aboutAxis, hhalf, Scalar.sin, Scalar.cos, Real.sin_pi_div_two, Real.cos_pi_div_two,
    mul_one]

theorem arcBetween_cases (a b : Vec3 ℝ) :
    parallelBound < a.dot b ∧ arcBetween a b = identity ∨
      a.dot b < -parallelBound ∧
        arcBetween a b = ⟨a.perpendicular.x, a.perpendicular.y, a.perpendicular.z, 0⟩ ∨
      offArc a b = false ∧
        arcBetween a b =
          normalize ⟨(a.cross b).x, (a.cross b).y, (a.cross b).z, 1 + a.dot b⟩ := by
  by_cases hparallel : parallelBound < a.dot b
  · exact Or.inl ⟨hparallel, by simp [arcBetween, Scalar.lt, hparallel]⟩
  by_cases hopposite : a.dot b < -parallelBound
  · refine Or.inr (Or.inl ⟨hopposite, ?_⟩)
    simp [arcBetween, Scalar.lt, hparallel, hopposite, aboutAxis_pi]
  · refine Or.inr (Or.inr ⟨?_, ?_⟩)
    · simp [offArc, Scalar.lt, hparallel, hopposite]
    · simp [arcBetween, Scalar.lt, hparallel, hopposite, one_real]

variable {a b : Vec3 ℝ}

theorem isUnit_halfTurn (hv : v.IsUnit) : IsUnit ⟨v.x, v.y, v.z, 0⟩ := by
  simp only [IsUnit, normSq]
  linear_combination hv.sum_sq

theorem apply_halfTurn (hv : v.IsUnit) (hperp : a.dot v = 0) :
    apply ⟨v.x, v.y, v.z, 0⟩ a = a.scale (-1) := by
  simp only [apply, hperp, show Vec3.dot ⟨v.x, v.y, v.z⟩ ⟨v.x, v.y, v.z⟩ = 1 from hv]
  ext <;> simp only [scale, add_x, add_y, add_z] <;> ring

theorem normSq_arc (ha : a.IsUnit) (hb : b.IsUnit) :
    normSq ⟨(a.cross b).x, (a.cross b).y, (a.cross b).z, 1 + a.dot b⟩ = 2 * (1 + a.dot b) := by
  simp only [normSq, dot, cross]
  linear_combination (b.x * b.x + b.y * b.y + b.z * b.z) * ha.sum_sq + hb.sum_sq

theorem apply_arc (ha : a.IsUnit) (hb : b.IsUnit) :
    apply ⟨(a.cross b).x, (a.cross b).y, (a.cross b).z, 1 + a.dot b⟩ a =
      b.scale (2 * (1 + a.dot b)) := by
  ext
  · simp only [apply, dot, cross, scale, add_x]
    linear_combination (2 * (1 + (a.x * b.x + a.y * b.y + a.z * b.z)) * b.x -
      a.x * (b.x * b.x + b.y * b.y + b.z * b.z)) * ha.sum_sq - a.x * hb.sum_sq
  · simp only [apply, dot, cross, scale, add_y]
    linear_combination (2 * (1 + (a.x * b.x + a.y * b.y + a.z * b.z)) * b.y -
      a.y * (b.x * b.x + b.y * b.y + b.z * b.z)) * ha.sum_sq - a.y * hb.sum_sq
  · simp only [apply, dot, cross, scale, add_z]
    linear_combination (2 * (1 + (a.x * b.x + a.y * b.y + a.z * b.z)) * b.z -
      a.z * (b.x * b.x + b.y * b.y + b.z * b.z)) * ha.sum_sq - a.z * hb.sum_sq

theorem one_add_dot_ne_zero (h : offArc a b = false) : 1 + a.dot b ≠ 0 := by
  have hbound : -parallelBound ≤ a.dot b := by
    by_contra hlt
    have hoff := offArc_eq_true_iff.mpr (Or.inr (not_le.mp hlt))
    simp [h] at hoff
  rw [parallelBound_real] at hbound
  intro hzero
  linarith

theorem isUnit_arcBetween (ha : a.IsUnit) (hb : b.IsUnit) : (arcBetween a b).IsUnit := by
  rcases arcBetween_cases a b with ⟨_, heq⟩ | ⟨_, heq⟩ | ⟨harc, heq⟩
  · rw [heq]
    exact isUnit_identity
  · rw [heq]
    exact isUnit_halfTurn ha.perpendicular.1
  · rw [heq]
    apply isUnit_normalize
    rw [normSq_arc ha hb]
    exact mul_ne_zero two_ne_zero (one_add_dot_ne_zero harc)

theorem apply_arcBetween (ha : a.IsUnit) (hb : b.IsUnit) (h : offArc a b = false) :
    (arcBetween a b).apply a = b := by
  rcases arcBetween_cases a b with ⟨hoff, _⟩ | ⟨hoff, _⟩ | ⟨_, heq⟩
  · rw [offArc_eq_true_iff.mpr (Or.inl hoff)] at h
    contradiction
  · rw [offArc_eq_true_iff.mpr (Or.inr hoff)] at h
    contradiction
  · have hne : 2 * (1 + a.dot b) ≠ 0 := mul_ne_zero two_ne_zero (one_add_dot_ne_zero h)
    rw [heq, apply_normalize, normSq_arc ha hb, apply_arc ha hb]
    exact scale_scale_one_div hne b

/-- Where the rotation takes `a` is as near to `b` as counts for parallel. -/
theorem parallelBound_le_dot_apply (ha : a.IsUnit) (hb : b.IsUnit) :
    parallelBound ≤ b.dot ((arcBetween a b).apply a) := by
  rcases arcBetween_cases a b with ⟨hparallel, heq⟩ | ⟨hopposite, heq⟩ | ⟨harc, _⟩
  · rw [heq, apply_identity, dot_comm]
    exact hparallel.le
  · rw [heq, apply_halfTurn ha.perpendicular.1 ha.perpendicular.2, dot_scale, dot_comm]
    linarith
  · rw [apply_arcBetween ha hb harc, hb.dot_self, parallelBound_real]
    norm_num

/-- The longest way that is left to go off the arc. -/
noncomputable def gap : ℝ := √(4 / 8388608)

theorem missed_le_gap (ha : a.IsUnit) (hb : b.IsUnit) :
    √((b - (arcBetween a b).apply a).dot (b - (arcBetween a b).apply a)) ≤ gap := by
  have hreached := (isUnit_arcBetween ha hb).apply ha
  have hnear := parallelBound_le_dot_apply ha hb
  apply Real.sqrt_le_sqrt
  rw [parallelBound_real] at hnear
  rw [dot_sub_self, hb.dot_self, hreached.dot_self]
  linarith

end Rotation

end PlantGrowth
