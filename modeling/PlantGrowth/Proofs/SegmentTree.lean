import PlantGrowth.Proofs.BranchRestoration

/-!
# The tree of segments

Which segment a new one grows from is a question about brackets: it is the last segment that does
not lie in a side branch already closed.  The walk never asks that question.  It carries the end of
the last segment and its anchor along, saves both at a `push` and takes both back at a `pop`.  Here
the two answers are shown to be the same at every visit, by following how the parent of a position
changes from one position to the next.
-/

namespace PlantGrowth

namespace Brackets

/-- Position `j` lies in a side branch that is closed before position `i`. -/
def InClosedBranch (commands : List Command) (i j : Nat) : Prop :=
  ∃ p q, p < j ∧ j < q ∧ q < i ∧ Matched commands p q

/-- A segment drawn at position `i` grows from the one drawn at position `j`: the last one that
does not lie in a closed side branch. -/
structure IsParent (commands : List Command) (i j : Nat) : Prop where
  lt : j < i
  draws : commands[j]? = some .forward
  outside : ¬ InClosedBranch commands i j
  last : ∀ k, j < k → k < i → commands[k]? = some .forward → InClosedBranch commands i k

variable {commands : List Command} {i j p q : Nat}

theorem inClosedBranch_succ_iff (hunmatched : ∀ p, ¬ Matched commands p i) :
    InClosedBranch commands (i + 1) j ↔ InClosedBranch commands i j := by
  constructor
  · rintro ⟨p, q, hpj, hjq, hqi, hmatched⟩
    rcases Nat.lt_or_eq_of_le (Nat.le_of_lt_succ hqi) with hlt | rfl
    · exact ⟨p, q, hpj, hjq, hlt, hmatched⟩
    · exact absurd hmatched (hunmatched p)
  · rintro ⟨p, q, hpj, hjq, hqi, hmatched⟩
    exact ⟨p, q, hpj, hjq, Nat.lt_succ_of_lt hqi, hmatched⟩

/-- A command that neither draws nor closes a branch leaves the parent as it is. -/
theorem isParent_succ_iff (hunmatched : ∀ p, ¬ Matched commands p i)
    (hforward : commands[i]? ≠ some .forward) :
    IsParent commands (i + 1) j ↔ IsParent commands i j := by
  constructor
  · rintro ⟨hji, hdraws, houtside, hlast⟩
    have hne : j ≠ i := by
      rintro rfl
      exact hforward hdraws
    refine ⟨by omega, hdraws, ?_, ?_⟩
    · rwa [inClosedBranch_succ_iff hunmatched] at houtside
    · intro k hjk hki hk
      exact (inClosedBranch_succ_iff hunmatched).mp (hlast k hjk (by omega) hk)
  · rintro ⟨hji, hdraws, houtside, hlast⟩
    refine ⟨by omega, hdraws, ?_, ?_⟩
    · rwa [inClosedBranch_succ_iff hunmatched]
    · intro k hjk hki hk
      have hne : k ≠ i := by
        rintro rfl
        exact hforward hk
      exact (inClosedBranch_succ_iff hunmatched).mpr (hlast k hjk (by omega) hk)

theorem isParent_succ_of_forward (hforward : commands[i]? = some .forward) :
    IsParent commands (i + 1) j ↔ j = i := by
  have houtside : ¬ InClosedBranch commands (i + 1) i := by
    rintro ⟨p, q, _, hiq, hqi, _⟩
    omega
  constructor
  · rintro ⟨hji, _, _, hlast⟩
    by_contra hne
    exact houtside (hlast i (by omega) (Nat.lt_succ_self i) hforward)
  · rintro rfl
    exact ⟨Nat.lt_succ_self j, hforward, houtside, fun k _ _ => by omega⟩

/-- No closed branch reaches from before a `push` into its branch. -/
theorem inClosedBranch_succ_of_matched {k : Nat} (hmatched : Matched commands p q)
    (hkp : k < p) : InClosedBranch commands (q + 1) k ↔ InClosedBranch commands p k := by
  have hpq := hmatched.lt
  constructor
  · rintro ⟨p', q', hpk, hkq, hqq, hmatched'⟩
    refine ⟨p', q', hpk, hkq, ?_, hmatched'⟩
    by_contra hge
    have hne : q' ≠ p := by
      rintro rfl
      have hboth := hmatched'.closes.symm.trans hmatched.opens
      simp at hboth
    have hcross := hmatched'.close_lt_close hmatched (by omega) (by omega)
    omega
  · rintro ⟨p', q', hpk, hkq, hqp, hmatched'⟩
    exact ⟨p', q', hpk, hkq, by omega, hmatched'⟩

/-- Behind a side branch the parent is what it was before the branch. -/
theorem isParent_succ_of_matched (hmatched : Matched commands p q) :
    IsParent commands (q + 1) j ↔ IsParent commands p j := by
  have hpq := hmatched.lt
  have hopen : commands[p]? ≠ some .forward := by simp [hmatched.opens]
  have hclose : commands[q]? ≠ some .forward := by simp [hmatched.closes]
  constructor
  · rintro ⟨hjq, hdraws, houtside, hlast⟩
    have hjp : j < p := by
      by_contra hge
      have hjp : j ≠ p := fun h => hopen (h ▸ hdraws)
      have hjq' : j ≠ q := fun h => hclose (h ▸ hdraws)
      exact houtside ⟨p, q, by omega, by omega, Nat.lt_succ_self q, hmatched⟩
    refine ⟨hjp, hdraws, ?_, ?_⟩
    · rwa [inClosedBranch_succ_of_matched hmatched hjp] at houtside
    · intro k hjk hkp hk
      exact (inClosedBranch_succ_of_matched hmatched hkp).mp (hlast k hjk (by omega) hk)
  · rintro ⟨hjp, hdraws, houtside, hlast⟩
    refine ⟨by omega, hdraws, ?_, ?_⟩
    · rwa [inClosedBranch_succ_of_matched hmatched hjp]
    · intro k hjk hkq hk
      rcases Nat.lt_trichotomy k p with hkp | rfl | hpk
      · exact (inClosedBranch_succ_of_matched hmatched hkp).mpr (hlast k hjk hkp hk)
      · exact absurd hk hopen
      · have hne : k ≠ q := fun h => hclose (h ▸ hk)
        exact ⟨p, q, hpk, by omega, Nat.lt_succ_self q, hmatched⟩

end Brackets

open Brackets

variable {α β σ : Type} [Scalar α]

namespace Visit

variable (S : Setting α β σ) (v : Visit α β σ)

theorem after_position_of_forward (hcommand : v.command = .forward) :
    (v.after S).turtle.position = (v.segment S).stop := by
  simp [after, hcommand, Walk.step, Walk.draw, segment, taperRun, ahead]

theorem after_anchor_of_forward (hcommand : v.command = .forward) :
    (v.after S).turtle.anchor = (v.answer S).2 := by
  simp [after, hcommand, Walk.step, Walk.draw, answer, segment, taperRun, ahead, origin]

theorem after_tip_of_other (hforward : v.command ≠ .forward) (hpop : v.command ≠ .pop) :
    (v.after S).turtle.position = v.walk.turtle.position ∧
      (v.after S).turtle.anchor = v.walk.turtle.anchor := by
  cases hcommand : v.command <;>
    simp_all [after, Walk.step, Walk.sprout_eq, Walk.mark_eq, Walk.turn, Walk.turnAround,
      Walk.push, Turtle.rotate]

end Visit

namespace Setting

/-- The turtle `t` stands at the end of the segment that is the parent of position `i` and holds
its anchor; without a parent it stands at the origin and holds the anchor of the root. -/
structure AtTip (S : Setting α β σ) (i : Nat) (t : Turtle α) : Prop where
  ofParent : ∀ j, IsParent S.commands i j →
    ∃ u ∈ S.course, u.index = j ∧ u.command = .forward ∧
      t.anchor = (u.answer S).2 ∧ t.position = (u.segment S).stop
  ofRoot : (∀ j, ¬ IsParent S.commands i j) →
    t.anchor =
        (S.builder.begin S.built (Turtle.atOrigin S.habit.stepLength S.habit.baseWidth)).2 ∧
      t.position = Vec3.zero

variable {S : Setting α β σ}

theorem AtTip.congr {i i' : Nat} {t t' : Turtle α} (htip : S.AtTip i t)
    (hparent : ∀ j, IsParent S.commands i' j ↔ IsParent S.commands i j)
    (hposition : t'.position = t.position) (hanchor : t'.anchor = t.anchor) :
    S.AtTip i' t' := by
  constructor
  · intro j hj
    rw [hposition, hanchor]
    exact htip.ofParent j ((hparent j).mp hj)
  · intro hroot
    rw [hposition, hanchor]
    exact htip.ofRoot (fun j hj => hroot j ((hparent j).mpr hj))

theorem atTip_start : S.AtTip 0 S.start.turtle := by
  constructor
  · intro j hj
    exact absurd hj.lt (Nat.not_lt_zero j)
  · intro _
    exact ⟨rfl, rfl⟩

theorem atTip_after_forward {u : Visit α β σ} (hu : u ∈ S.course)
    (hforward : u.command = .forward) : S.AtTip (u.index + 1) (u.after S).turtle := by
  have hparent : ∀ j, IsParent S.commands (u.index + 1) j ↔ j = u.index :=
    fun _ => isParent_succ_of_forward (hforward ▸ command_at_index hu)
  constructor
  · intro j hj
    exact ⟨u, hu, ((hparent j).mp hj).symm, hforward,
      Visit.after_anchor_of_forward S u hforward,
      Visit.after_position_of_forward S u hforward⟩
  · intro hroot
    exact absurd ((hparent u.index).mpr rfl) (hroot u.index)

theorem atTip_of_mem {v : Visit α β σ} (hv : v ∈ S.course) :
    S.AtTip v.index v.walk.turtle := by
  refine turtle_induction (P := S.AtTip) atTip_start ?_ ?_ ?_ hv
  · intro u hu hpop htip
    by_cases hforward : u.command = .forward
    · exact atTip_after_forward hu hforward
    · obtain ⟨hposition, hanchor⟩ := Visit.after_tip_of_other S u hforward hpop
      refine htip.congr (fun _ => isParent_succ_iff (not_matched_of_ne_pop hu hpop) ?_)
        hposition hanchor
      simpa [command_at_index hu] using hforward
  · intro p q t hmatched htip
    exact htip.congr (fun _ => isParent_succ_of_matched hmatched) rfl rfl
  · intro u hu hpop hunmatched htip
    exact htip.congr
      (fun _ => isParent_succ_iff hunmatched (by simp [command_at_index hu, hpop])) rfl rfl

/-- Every segment grows from its parent: it starts where the parent ends, and the builder is given
the anchor that it answered for the parent.  A segment without a parent starts at the origin and
grows from what the builder began with. -/
theorem segment_grows_from_parent (S : Setting α β σ) {v : Visit α β σ} (hv : v ∈ S.course)
    {segment : Segment α} {origin : Option Anchor}
    (hcall : v.call? S = some (segment, origin)) :
    (∀ j, IsParent S.commands v.index j →
      ∃ u ∈ S.course, u.index = j ∧ u.command = .forward ∧
        origin = (u.answer S).2 ∧ segment.start = (u.segment S).stop) ∧
    ((∀ j, ¬ IsParent S.commands v.index j) →
      origin =
          (S.builder.begin S.built
            (Turtle.atOrigin S.habit.stepLength S.habit.baseWidth)).2 ∧
        segment.start = Vec3.zero) := by
  have htip := atTip_of_mem hv
  obtain ⟨hsegment, horigin⟩ : v.segment S = segment ∧ v.origin = origin := by
    unfold Visit.call? at hcall
    split at hcall
    · simpa using hcall
    · simp at hcall
  subst hsegment horigin
  exact ⟨htip.ofParent, htip.ofRoot⟩

private theorem shrub_parent : IsParent (shrub Float32 9).commands 10 0 := by
  refine ⟨by decide, rfl, ?_, ?_⟩
  · rintro ⟨p, _, hp, _⟩
    exact Nat.not_lt_zero p hp
  · intro k hk hlt hforward
    -- every segment in between lies in the branch from 1 to 9
    refine ⟨1, 9, ?_, ?_, by decide, rfl, rfl, by decide⟩
    · by_contra hle
      have hk : k = 1 := by omega
      simp [hk, shrub] at hforward
    · by_contra hle
      have hk : k = 9 := by omega
      simp [hk, shrub] at hforward

theorem segment_grows_from_parent_shrub :
    IsParent (shrub Float32 9).commands 10 0 ∧
      ∃ v ∈ (shrub Float32 9).course, v.index = 10 ∧
        ∃ segment origin, v.call? (shrub Float32 9) = some (segment, origin) ∧
          ∃ u ∈ (shrub Float32 9).course, u.index = 0 ∧
            origin = (u.answer (shrub Float32 9)).2 ∧
            segment.start = (u.segment (shrub Float32 9)).stop := by
  have hlength : 10 < (shrub Float32 9).course.length := by decide
  have hv := List.getElem_mem hlength
  have hcall : ((shrub Float32 9).course[10]).call? (shrub Float32 9) =
      some (((shrub Float32 9).course[10]).segment (shrub Float32 9),
        ((shrub Float32 9).course[10]).origin) := rfl
  obtain ⟨hparent, _⟩ := segment_grows_from_parent (shrub Float32 9) hv hcall
  obtain ⟨u, hu, hindex, _, horigin, hstart⟩ := hparent 0 shrub_parent
  exact ⟨shrub_parent, _, hv, rfl, _, _, hcall, u, hu, hindex, horigin, hstart⟩

end Setting

end PlantGrowth
