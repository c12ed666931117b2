import PlantGrowth.Taper.Run
import Mathlib.Analysis.SpecialFunctions.Pow.Real
import Mathlib.Analysis.SpecialFunctions.Trigonometric.Basic

/-!
# Exact arithmetic

Scalars promise no laws, so what holds of a plant in exact arithmetic is stated with the laws that
it needs.  The reals are the scalars that have them all.
-/

namespace PlantGrowth

noncomputable instance : Scalar ℝ where
  ofNat n := n
  abs x := |x|
  sqrt := Real.sqrt
  sin := Real.sin
  cos := Real.cos
  tan := Real.tan
  pow x y := x ^ y
  pi := Real.pi
  sign x := if x < 0 then -1 else 1
  lesser := min
  greater := max
  lt x y := x < y
  le x y := x ≤ y
  isFinite _ := true

namespace Scalar

variable {α : Type} [Scalar α]

/-- Products of exact numbers do not depend on how they are put together. -/
structure ExactProducts (α : Type) [Scalar α] : Prop where
  mul_assoc : ∀ x y z : α, x * y * z = x * (y * z)
  mul_one : ∀ x : α, x * Scalar.ofNat 1 = x

/-- The product of `n` factors `x`. -/
def power (x : α) : Nat → α
  | 0 => 1
  | n + 1 => power x n * x

theorem ExactProducts.iterate_mul (h : ExactProducts α) (x y : α) (n : Nat) :
    (· * x)^[n] y = y * power x n := by
  induction n with
  | zero => exact (h.mul_one y).symm
  | succ n ih =>
      rw [Function.iterate_succ_apply', ih]
      exact h.mul_assoc y (power x n) x

/-- Zero adds nothing, and multiplied by it every number is zero: no number is infinite. -/
structure ExactZero (α : Type) [Scalar α] : Prop where
  add_zero : ∀ x : α, x + Scalar.ofNat 0 = x
  mul_zero : ∀ x : α, x * Scalar.ofNat 0 = Scalar.ofNat 0

theorem ofNat_real (n : Nat) : (Scalar.ofNat n : ℝ) = n := rfl

end Scalar

theorem exactProducts_real : Scalar.ExactProducts ℝ := by
  constructor
  · exact mul_assoc
  · intro x
    rw [Scalar.ofNat_real, Nat.cast_one, mul_one]

theorem exactZero_real : Scalar.ExactZero ℝ := by
  constructor
  · intro x
    rw [Scalar.ofNat_real, Nat.cast_zero, add_zero]
  · intro x
    rw [Scalar.ofNat_real, Nat.cast_zero, mul_zero]

theorem power_real (x : ℝ) (n : Nat) : Scalar.power x n = x ^ n := by
  induction n with
  | zero => exact Nat.cast_one.trans (pow_zero x).symm
  | succ n ih => rw [Scalar.power, ih, pow_succ]

theorem lesser_one_real (x : ℝ) : Scalar.lesser x (Scalar.ofNat 1) = min x 1 := by
  rw [Scalar.ofNat_real, Nat.cast_one]
  rfl

theorem gradualDecay_real (taper : ℝ) {n : Nat} (hn : n ≠ 0) :
    gradualDecay taper n = min taper 1 ^ (n : ℝ)⁻¹ := by
  have hdecay : gradualDecay taper n = min taper ((1 : ℕ) : ℝ) ^ (((1 : ℕ) : ℝ) / n) := by
    rw [gradualDecay, if_neg (by simpa using hn)]
    rfl
  rw [hdecay, Nat.cast_one, one_div]

/-- Over the reals the shares of a run make up the taper factor. -/
theorem power_gradualDecay_real {taper : ℝ} (htaper : 0 ≤ taper) {n : Nat} (hn : n ≠ 0) :
    Scalar.power (gradualDecay taper n) n = Scalar.lesser taper (Scalar.ofNat 1) := by
  rw [power_real, gradualDecay_real taper hn, lesser_one_real]
  exact Real.rpow_inv_natCast_pow (le_min htaper zero_le_one) hn

end PlantGrowth
