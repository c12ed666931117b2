import PlantGrowth.Proofs.SegmentTree
import Mathlib.Data.Finset.Card
import Mathlib.Data.Finset.Range

/-!
# The way from the root

The segments that carry a position are those before it that lie in no side branch closed by then.  A
segment adds itself to them and the end of a side branch takes back all that the branch has added;
nothing else changes them.  So their number is how many steps a turtle has gone from the origin,
whatever branches it has left on the way.
-/

namespace PlantGrowth

namespace Brackets

variable {commands : List Command} {i j p q : Nat}

instance (commands : List Command) (p q : Nat) : Decidable (Matched commands p q) :=
  decidable_of_iff
    (commands[p]? = some .push ∧ commands[q]? = some .pop ∧ SameScope commands (p + 1) q)
    ⟨fun ⟨hopens, hcloses, hinside⟩ => ⟨hopens, hcloses, hinside⟩,
      fun h => ⟨h.opens, h.closes, h.inside⟩⟩

instance (commands : List Command) (i j : Nat) : Decidable (InClosedBranch commands i j) :=
  decidable_of_iff (∃ q < i, j < q ∧ ∃ p < j, Matched commands p q)
    ⟨fun ⟨q, hqi, hjq, p, hpj, hmatched⟩ => ⟨p, q, hpj, hjq, hqi, hmatched⟩,
      fun ⟨p, q, hpj, hjq, hqi, hmatched⟩ => ⟨q, hqi, hjq, p, hpj, hmatched⟩⟩

/-- The segments that carry position `i`: they stand before it and in no branch that is closed. -/
def trail (commands : List Command) (i : Nat) : Finset Nat :=
  {j ∈ Finset.range i | commands[j]? = some .forward ∧ ¬ InClosedBranch commands i j}

theorem mem_trail :
    j ∈ trail commands i ↔
      j < i ∧ commands[j]? = some .forward ∧ ¬ InClosedBranch commands i j := by
  simp [trail]

example : trail (Command.ofWord "F[F[F]F]]F[F".toList) 11 = {0, 9} := by decide

theorem trail_succ (hunmatched : ∀ p, ¬ Matched commands p i)
    (hforward : commands[i]? ≠ some .forward) : trail commands (i + 1) = trail commands i := by
  ext j
  rw [mem_trail, mem_trail, inClosedBranch_succ_iff hunmatched]
  constructor
  · rintro ⟨hji, hdraws, houtside⟩
    have hne : j ≠ i := by
      rintro rfl
      exact hforward hdraws
    exact ⟨by omega, hdraws, houtside⟩
  · rintro ⟨hji, hdraws, houtside⟩
    exact ⟨Nat.lt_succ_of_lt hji, hdraws, houtside⟩

theorem trail_succ_of_forward (hforward : commands[i]? = some .forward) :
    trail commands (i + 1) = insert i (trail commands i) := by
  have hunmatched : ∀ p, ¬ Matched commands p i := by
    intro p hmatched
    have hboth := hforward.symm.trans hmatched.closes
    simp at hboth
  have htip : ¬ InClosedBranch commands i i := by
    rintro ⟨p, q, _, hiq, hqi, _⟩
    omega
  ext j
  rw [Finset.mem_insert, mem_trail, mem_trail, inClosedBranch_succ_iff hunmatched]
  constructor
  · rintro ⟨hji, hdraws, houtside⟩
    rcases Nat.lt_or_eq_of_le (Nat.le_of_lt_succ hji) with hlt | heq
    · exact Or.inr ⟨hlt, hdraws, houtside⟩
    · exact Or.inl heq
  · rintro (rfl | ⟨hji, hdraws, houtside⟩)
    · exact ⟨Nat.lt_succ_self j, hforward, htip⟩
    · exact ⟨Nat.lt_succ_of_lt hji, hdraws, houtside⟩

theorem card_trail_succ_of_forward (hforward : commands[i]? = some .forward) :
    (trail commands (i + 1)).card = (trail commands i).card + 1 := by
  rw [trail_succ_of_forward hforward]
  apply Finset.card_insert_of_notMem
  intro hi
  exact Nat.lt_irrefl i (mem_trail.mp hi).1

/-- Behind a side branch the way from the root is what it was before the branch. -/
theorem trail_succ_of_matched (hmatched : Matched commands p q) :
    trail commands (q + 1) = trail commands p := by
  have hpq := hmatched.lt
  ext j
  rw [mem_trail, mem_trail]
  constructor
  · rintro ⟨hjq, hdraws, houtside⟩
    have hjp : j < p := by
      by_contra hge
      have hopen : j ≠ p := by
        rintro rfl
        simp [hmatched.opens] at hdraws
      have hclose : j ≠ q := by
        rintro rfl
        simp [hmatched.closes] at hdraws
      exact houtside ⟨p, q, by omega, by omega, Nat.lt_succ_self q, hmatched⟩
    exact ⟨hjp, hdraws, by rwa [inClosedBranch_succ_of_matched hmatched hjp] at houtside⟩
  · rintro ⟨hjp, hdraws, houtside⟩
    exact ⟨by omega, hdraws, by rwa [inClosedBranch_succ_of_matched hmatched hjp]⟩

end Brackets

end PlantGrowth
