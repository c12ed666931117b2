import PlantGrowth.Proofs.ExactArithmetic
import PlantGrowth.Proofs.ParallelWalks

/-!
# Plants without variance

Without variance the angle of a turn is the angle of the habit, whatever the sample, as far as
numbers are exact.  Samples are then left to the leaves, which are twisted by them and stay where
the turtle put them.
-/

namespace PlantGrowth

open Scalar

variable {α β σ τ : Type} [Scalar α]

theorem Scalar.ExactZero.jittered_zero (h : ExactZero α) (angle sample : α) :
    jittered angle 0 sample = angle := by
  have hvaried : (sample - half) * 2 * 0 = (0 : α) := h.mul_zero _
  rw [jittered, hvaried]
  exact h.add_zero angle

/-! ## Leaves but for their rotations -/

/-- The leaf as it is when its rotation is forgotten. -/
def LeafTransform.unturned (leaf : LeafTransform α) : LeafTransform α :=
  { leaf with rotation := Rotation.identity }

def Leaf.unturned (leaf : Leaf α) : Leaf α := ⟨leaf.base.unturned, leaf.current.unturned⟩

def Foliage.unturned (f : Foliage α) : Foliage α := { f with leaves := f.leaves.map Leaf.unturned }

theorem Foliage.unturned_empty (multiplier : α) :
    (Foliage.empty multiplier).unturned = Foliage.empty multiplier := by
  simp only [unturned, empty, List.map_toArray, List.map_nil]

theorem Foliage.unturned_push (f : Foliage α) (leaf : LeafTransform α) :
    (f.push leaf).unturned = f.unturned.push leaf.unturned := by
  simp only [unturned, push, Array.map_push]
  rfl

theorem Foliage.unturned_foldl_push (leaves : List (LeafTransform α)) (f : Foliage α) :
    (leaves.foldl push f).unturned = (leaves.map LeafTransform.unturned).foldl push f.unturned := by
  induction leaves generalizing f with
  | nil => rfl
  | cons leaf leaves ih => rw [List.foldl_cons, ih, unturned_push, List.map_cons, List.foldl_cons]

namespace Setting

variable (S : Setting α β σ) (source : Source α τ) (chance : τ)

theorem sameTurns_withChance (hexact : ExactZero α) (hvariance : S.habit.variance = 0) :
    S.SameTurns (S.withChance source chance) where
  commands := rfl
  builder := rfl
  built := rfl
  habit := ⟨S.habit.tipsOnly, rfl⟩
  angle := by
    intro s s'
    simp only [withChance, hvariance, hexact.jittered_zero]

theorem leaf?_withChance (v : Visit α β σ) {w' : Walk α β τ} (hwalk : v.walk.SameFrame w') :
    ((v.withWalk w').leaf? (S.withChance source chance)).map LeafTransform.unturned =
      (v.leaf? S).map LeafTransform.unturned := by
  rw [Visit.leaf?_eq, Visit.leaf?_eq]
  simp only [Visit.withWalk, withChance, hwalk.turtle]
  split <;> rfl

def unturnedLeaves (S : Setting α β σ) : List (Nat × LeafTransform α) :=
  S.placedLeaves.map fun leaf => (leaf.1, leaf.2.unturned)

theorem tour_foliage_unturned :
    S.tour.walk.foliage.unturned =
      (S.unturnedLeaves.map Prod.snd).foldl Foliage.push (Foliage.empty S.habit.leafScale) := by
  rw [tour_foliage_eq_placedLeaves, Foliage.unturned_foldl_push, Foliage.unturned_empty,
    unturnedLeaves, List.map_map, List.map_map]
  rfl

theorem unturnedLeaves_withChance (hexact : ExactZero α) (hvariance : S.habit.variance = 0) :
    (S.withChance source chance).unturnedLeaves = S.unturnedLeaves := by
  rw [unturnedLeaves, unturnedLeaves, placedLeaves, placedLeaves, List.map_filterMap,
    List.map_filterMap]
  apply (S.sameTurns_withChance source chance hexact hvariance).parallel.filterMap_course
  intro v w' hwalk
  have hleaf := S.leaf?_withChance source chance v hwalk
  have hplaced := congrArg (Option.map fun leaf => (v.index, leaf)) hleaf
  rw [Option.map_map, Option.map_map] at hplaced
  rw [Visit.placedLeaf?, Visit.placedLeaf?, Option.map_map, Option.map_map]
  exact hplaced

/-- Without variance, and with exact numbers, chance has no part in the frame of a plant: whatever
its samples, a walk asks the same of its builder and ends alike.  Its leaves stand at the same
symbols, in the same places and as large; only their rotations may differ. -/
theorem zero_variance_frees_frame (hexact : ExactZero α) (hvariance : S.habit.variance = 0) :
    S.SameFrame (S.withChance source chance) ∧
      (S.withChance source chance).unturnedLeaves = S.unturnedLeaves ∧
      (S.withChance source chance).tour.walk.foliage.unturned =
        S.tour.walk.foliage.unturned := by
  have hleaves := S.unturnedLeaves_withChance source chance hexact hvariance
  refine ⟨(S.sameTurns_withChance source chance hexact hvariance).sameFrame, hleaves, ?_⟩
  rw [tour_foliage_unturned, tour_foliage_unturned, hleaves]
  rfl

theorem zero_variance_frees_frame_shrub :
    (shrub ℝ 9).habit.variance = Scalar.ofNat 0 ∧
      (shrub ℝ 9).SameFrame
        ((shrub ℝ 9).withChance (Source.stream fun k => (k : ℝ)) 0) ∧
      ((shrub ℝ 9).withChance (Source.stream fun k => (k : ℝ)) 0).unturnedLeaves =
        (shrub ℝ 9).unturnedLeaves := by
  have hvariance : (shrub ℝ 9).habit.variance = Scalar.ofNat 0 := rfl
  obtain ⟨hframe, hleaves, _⟩ := zero_variance_frees_frame (shrub ℝ 9)
    (Source.stream fun k => (k : ℝ)) 0 exactZero_real hvariance
  exact ⟨hvariance, hframe, hleaves⟩

end Setting

end PlantGrowth
