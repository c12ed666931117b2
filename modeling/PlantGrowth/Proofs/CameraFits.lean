import Mathlib.Analysis.SpecialFunctions.Trigonometric.Basic
import PlantGrowth.Camera
import PlantGrowth.Proofs.Extents
import PlantGrowth.Proofs.RigidRotations

/-!
# Fitting the camera to a scaled box

A plant that is shown at a scale may be fitted in two ways: the fit takes the scale, or the box is
scaled first.  A negative scale turns the box over, so that its corners have to be sorted again, and
all edges grow by the absolute value of the scale.  The fit sees only the longest edge, of which it
takes the absolute value itself, and the sum of the corners, which sorting does not change.

A scale that gives a box a height divides by the height that the box has.  The divisions here are
made again with a look at the divisor, and none of them divides by zero.
-/

namespace PlantGrowth

section

open Scalar

variable {α : Type} [Scalar α]

/-- The box between the corners moved away from the origin by the factor `s`. -/
def Bounds.scaled (b : Bounds α) (s : α) : Bounds α := ofCorners (b.min.scale s) (b.max.scale s)

/-- The quotient, unless it is by zero. -/
def Scalar.quotient? (x y : α) : Option α := if lt 0 y || lt y 0 then some (x / y) else none

def Extent.displayScale? (extent : Extent α) (enabled : Bool) (targetHeight : α) : Option α :=
  match extent with
  | none => some 1
  | some b =>
    if enabled && Scalar.lt 0 b.size.y then quotient? targetHeight b.size.y else some 1

def CameraFit.ofBounds? (b : Bounds α) (scale fieldOfView : α) : Option (CameraFit α) := do
  let radius ← quotient? (b.longestEdge * scale) 2
  let needed ← quotient? radius (Scalar.tan (← quotient? fieldOfView 2))
  let distance := Scalar.abs needed * padding
  some ⟨b.center.scale scale, distance, Scalar.greater minFar (distance * 5)⟩

theorem CameraFit.ofBounds?_eq_of_quotients {b : Bounds α} {scale fieldOfView : α}
    (htwo : ∀ x : α, quotient? x 2 = some (x / 2))
    (htan : ∀ x : α, quotient? x (Scalar.tan (fieldOfView / 2)) =
      some (x / Scalar.tan (fieldOfView / 2))) :
    ofBounds? b scale fieldOfView = some (ofBounds b scale fieldOfView) := by
  simp [ofBounds?, ofBounds, htwo, htan]

end

theorem quotient?_real (x : ℝ) {y : ℝ} (hy : y ≠ 0) : Scalar.quotient? x y = some (x / y) := by
  have hsides : 0 < y ∨ y < 0 := hy.symm.lt_or_gt
  simpa [Scalar.quotient?, Scalar.lt, zero_real] using hsides

namespace Vec3

theorem at_scale (v : Vec3 ℝ) (s : ℝ) (c : Coordinate) : (v.scale s).at c = v.at c * s := by
  cases c <;> rfl

theorem scale_one (v : Vec3 ℝ) : v.scale 1 = v := by
  ext <;> exact mul_one _

theorem at_add (v w : Vec3 ℝ) (c : Coordinate) : (v + w).at c = v.at c + w.at c := by
  cases c <;> rfl

theorem at_sub (v w : Vec3 ℝ) (c : Coordinate) : (v - w).at c = v.at c - w.at c := by
  cases c <;> rfl

theorem at_lesser (v w : Vec3 ℝ) (c : Coordinate) :
    (v.lesser w).at c = min (v.at c) (w.at c) := by
  cases c <;> rfl

theorem at_greater (v w : Vec3 ℝ) (c : Coordinate) :
    (v.greater w).at c = max (v.at c) (w.at c) := by
  cases c <;> rfl

theorem largest_scale {s : ℝ} (hs : 0 ≤ s) (v : Vec3 ℝ) : (v.scale s).largest = v.largest * s := by
  simp only [largest, scale, Scalar.greater, max_mul_of_nonneg _ _ hs]

end Vec3

namespace Bounds

variable {b : Bounds ℝ}

def Sorted (b : Bounds ℝ) : Prop := ∀ c, b.min.at c ≤ b.max.at c

theorem sorted_ofCorners (a b : Vec3 ℝ) : (ofCorners a b).Sorted := by
  intro c
  rw [ofCorners, Vec3.at_lesser, Vec3.at_greater]
  exact min_le_max

theorem center_scaled (b : Bounds ℝ) (s : ℝ) : (b.scaled s).center = b.center.scale s := by
  apply Vec3.ext_at
  intro c
  simp only [center, scaled, ofCorners, Vec3.at_scale, Vec3.at_add, Vec3.at_lesser,
    Vec3.at_greater, min_add_max]
  ring

theorem Sorted.size_scaled (h : b.Sorted) (s : ℝ) : (b.scaled s).size = b.size.scale |s| := by
  apply Vec3.ext_at
  intro c
  simp only [size, scaled, ofCorners, Vec3.at_scale, Vec3.at_sub, Vec3.at_lesser, Vec3.at_greater]
  calc _ = |b.max.at c * s - b.min.at c * s| := max_sub_min_eq_abs _ _
    _ = |b.max.at c - b.min.at c| * |s| := by rw [← sub_mul, abs_mul]
    _ = (b.max.at c - b.min.at c) * |s| := by rw [abs_of_nonneg (sub_nonneg.mpr (h c))]

theorem Sorted.longestEdge_scaled (h : b.Sorted) (s : ℝ) :
    (b.scaled s).longestEdge = b.longestEdge * |s| := by
  rw [longestEdge, h.size_scaled, Vec3.largest_scale (abs_nonneg s), longestEdge]

end Bounds

/-! ## The scale that gives a height -/

namespace Extent

variable {b : Bounds ℝ}

theorem displayScale_of_high (hheight : 0 < b.size.y) (targetHeight : ℝ) :
    displayScale (some b) true targetHeight = targetHeight / b.size.y := by
  simp [displayScale, Scalar.lt, zero_real, hheight]

theorem displayScale_eq_one {extent : Extent ℝ} {enabled : Bool}
    (hflat : enabled = false ∨ ∀ b ∈ extent, b.size.y ≤ 0) (targetHeight : ℝ) :
    extent.displayScale enabled targetHeight = 1 := by
  cases extent with
  | none => exact one_real
  | some b =>
      rcases hflat with hoff | hflat
      · simp [displayScale, hoff, one_real]
      · simp [displayScale, Scalar.lt, zero_real, one_real, not_lt.mpr (hflat b rfl)]

theorem displayScale?_eq (extent : Extent ℝ) (enabled : Bool) (targetHeight : ℝ) :
    extent.displayScale? enabled targetHeight =
      some (extent.displayScale enabled targetHeight) := by
  cases extent with
  | none => rfl
  | some b =>
      simp only [displayScale?, displayScale]
      split
      next hscaled =>
        have hheight : 0 < b.size.y := by
          simpa [Scalar.lt, zero_real] using (Bool.and_eq_true_iff.mp hscaled).2
        exact quotient?_real targetHeight hheight.ne'
      next => rfl

theorem height_scaled (h : b.Sorted) (hheight : 0 < b.size.y) (targetHeight : ℝ) :
    (b.scaled (displayScale (some b) true targetHeight)).size.y = |targetHeight| := by
  rw [h.size_scaled, displayScale_of_high hheight, abs_div, abs_of_pos hheight]
  exact mul_div_cancel₀ _ hheight.ne'

end Extent

/-! ## The camera -/

namespace CameraFit

attribute [ext] CameraFit

variable {b : Bounds ℝ} {s fieldOfView : ℝ}

theorem distance_ofBounds :
    (ofBounds b s fieldOfView).distance =
      |b.longestEdge * s / 2 / Real.tan (fieldOfView / 2)| * (3 / 2) := rfl

theorem far_ofBounds :
    (ofBounds b s fieldOfView).far = max 2000 ((ofBounds b s fieldOfView).distance * 5) := rfl

theorem distance_ofBounds_nonneg : 0 ≤ (ofBounds b s fieldOfView).distance := by
  rw [distance_ofBounds]
  positivity

theorem ofBounds?_eq (htan : Real.tan (fieldOfView / 2) ≠ 0) :
    ofBounds? b s fieldOfView = some (ofBounds b s fieldOfView) :=
  ofBounds?_eq_of_quotients (fun x => quotient?_real x two_ne_zero)
    (fun x => quotient?_real x htan)

/-- Only the absolute value of a scale goes into the distance. -/
theorem distance_scaled (h : b.Sorted) :
    (ofBounds (b.scaled s) 1 fieldOfView).distance = (ofBounds b s fieldOfView).distance := by
  rw [distance_ofBounds, distance_ofBounds, h.longestEdge_scaled, mul_one]
  simp only [abs_div, abs_mul, abs_abs]

theorem ofBounds_scaled (h : b.Sorted) :
    ofBounds b s fieldOfView = ofBounds (b.scaled s) 1 fieldOfView := by
  have hdistance : (ofBounds (b.scaled s) 1 fieldOfView).distance =
      (ofBounds b s fieldOfView).distance := distance_scaled h
  ext1
  · simp only [ofBounds, Bounds.center_scaled, Vec3.scale_one]
  · exact hdistance.symm
  · rw [far_ofBounds, far_ofBounds, hdistance]

/-- Fitting the camera to a box shown at a scale and fitting it to the scaled box are the same, for
a scale of either sign and for zero.  The distance is never negative, and the view is at least five
times as deep.  The scale for a height gives a box that has one this height; where there is no box,
or no height, or where scaling is off, it is one.  Nothing of this divides by zero. -/
theorem fit_commutes_with_scaling (corner opposite : Vec3 ℝ) (s fieldOfView targetHeight : ℝ)
    (htan : Real.tan (fieldOfView / 2) ≠ 0) :
    let box := Bounds.ofCorners corner opposite
    let fit := ofBounds box s fieldOfView
    fit = ofBounds (box.scaled s) 1 fieldOfView ∧ ofBounds? box s fieldOfView = some fit ∧
      0 ≤ fit.distance ∧ max 2000 (5 * fit.distance) ≤ fit.far ∧
      (0 < box.size.y →
        (box.scaled (Extent.displayScale (some box) true targetHeight)).size.y =
          |targetHeight|) ∧
      ∀ (extent : Extent ℝ) (enabled : Bool),
        extent.displayScale? enabled targetHeight =
            some (extent.displayScale enabled targetHeight) ∧
          (enabled = false ∨ (∀ b ∈ extent, b.size.y ≤ 0) →
            extent.displayScale enabled targetHeight = 1) := by
  intro box fit
  have hsorted : box.Sorted := Bounds.sorted_ofCorners corner opposite
  refine ⟨ofBounds_scaled hsorted, ofBounds?_eq htan, distance_ofBounds_nonneg, ?_, ?_, ?_⟩
  · rw [far_ofBounds, mul_comm]
  · intro hheight
    exact Extent.height_scaled hsorted hheight targetHeight
  · intro extent enabled
    exact ⟨extent.displayScale?_eq enabled targetHeight,
      fun hflat => Extent.displayScale_eq_one hflat targetHeight⟩

/-- A box turned over: twenty high, shown at minus three times its size. -/
theorem fit_commutes_with_scaling_upside_down :
    let box := Bounds.ofCorners (⟨-5, 0, -5⟩ : Vec3 ℝ) ⟨5, 20, 5⟩
    Real.tan (Real.pi / 2 / 2) ≠ 0 ∧ 0 < box.size.y ∧
      ofBounds box (-3) (Real.pi / 2) = ofBounds (box.scaled (-3)) 1 (Real.pi / 2) ∧
      (box.scaled (Extent.displayScale (some box) true (-60))).size.y = 60 ∧
      Extent.displayScale (some box) false (-60) = 1 := by
  intro box
  have htan : Real.tan (Real.pi / 2 / 2) ≠ 0 := by
    rw [div_div]
    norm_num
  have hheight : 0 < box.size.y := by
    simp [box, Bounds.size, Bounds.ofCorners, Vec3.lesser, Vec3.greater, Scalar.lesser,
      Scalar.greater]
  obtain ⟨hfit, _, _, _, hscaled, hscale⟩ :=
    fit_commutes_with_scaling ⟨-5, 0, -5⟩ ⟨5, 20, 5⟩ (-3) (Real.pi / 2) (-60) htan
  refine ⟨htan, hheight, hfit, ?_, (hscale (some box) false).2 (Or.inl rfl)⟩
  rw [hscaled hheight]
  norm_num

end CameraFit

end PlantGrowth
