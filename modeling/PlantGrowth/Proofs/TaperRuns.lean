import PlantGrowth.Proofs.BranchRestoration
import PlantGrowth.Proofs.TaperScan

/-!
# The taper run of the turtle

The turtle looks a run up once and then only counts down, and a mark, a side branch and a stray
`pop` each change what it has noted in their own way.  The invariant says what the note is worth at
a position: a run that is under way leads up to the next mark of the scope and counts the segments
left before it, and without one no segment of the next run has been missed.
-/

namespace PlantGrowth

open Brackets Scalar

variable {α β σ : Type} [Scalar α]

namespace TaperRun

/-- What the turtle has noted is right for position `i`. -/
structure Fits (taper : α) (commands : List Command) (i : Nat) (t : TaperRun α) : Prop where
  ahead : ∀ m, t.mark = some m → NextMark commands i m
  counted : ∀ m, t.mark = some m → t.remaining = (drawsUpTo commands i m).card
  begun : ∀ m, t.mark = some m → (leadUp commands m).Nonempty
  spread : ∀ m, t.mark = some m → t.decay = gradualDecay taper (leadUp commands m).card
  idle : t.mark = none → t.remaining = 0 ∧ t.decay = 1
  unmarked : t.unmarked = true → t.mark = none ∧ ∀ m, ¬ NextMark commands i m
  fresh : t.mark = none → ∀ m, NextMark commands i m → leadUp commands m = drawsUpTo commands i m

/-- Moreover the run of a segment at `i` is noted if there is one. -/
structure Ready (taper : α) (commands : List Command) (i : Nat) (t : TaperRun α) : Prop
    extends t.Fits taper commands i where
  found : ∀ m, NextMark commands i m → t.mark = some m

variable {taper : α} {commands : List Command} {i i' m s : Nat} {t : TaperRun α}

theorem fits_inactive (hstart : RunStart commands s) :
    (inactive : TaperRun α).Fits taper commands s := by
  constructor
  · simp [inactive]
  · simp [inactive]
  · simp [inactive]
  · simp [inactive]
  · intro _
    exact ⟨rfl, rfl⟩
  · simp [inactive]
  · intro _ m hnext
    exact hstart.leadUp_eq hnext

/-- A command that neither draws nor marks, or a side branch, does not touch the run. -/
theorem Fits.follow (h : t.Fits taper commands i) (hfollows : Follows commands i i')
    (hmark : commands[i]? ≠ some .taperMark) (hforward : commands[i]? ≠ some .forward) :
    t.Fits taper commands i' := by
  constructor
  · intro m hm
    exact (hfollows.nextMark_iff hmark).mp (h.ahead m hm)
  · intro m hm
    rw [h.counted m hm, hfollows.drawsUpTo_eq hforward]
  · exact h.begun
  · exact h.spread
  · exact h.idle
  · intro hunmarked
    obtain ⟨hnone, hnothing⟩ := h.unmarked hunmarked
    exact ⟨hnone, fun m hnext => hnothing m ((hfollows.nextMark_iff hmark).mpr hnext)⟩
  · intro hnone m hnext
    rw [h.fresh hnone m ((hfollows.nextMark_iff hmark).mpr hnext), hfollows.drawsUpTo_eq hforward]

theorem Fits.behind_branch {p q : Nat} (h : t.Fits taper commands p)
    (hmatched : Matched commands p q) : t.Fits taper commands (q + 1) :=
  h.follow (.branch hmatched) (by simp [hmatched.opens]) (by simp [hmatched.opens])

theorem Fits.eq_inactive (h : t.Fits taper commands i) (hnone : t.mark = none) :
    { t with unmarked := false } = inactive := by
  obtain ⟨hremaining, hdecay⟩ := h.idle hnone
  obtain ⟨decay, remaining, mark, unmarked⟩ := t
  simp only at hnone hremaining hdecay
  rw [hnone, hremaining, hdecay]
  rfl

/-- At a mark either its run has been followed, or there is none and nothing is noted. -/
theorem Fits.cases_of_mark (h : t.Fits taper commands i)
    (hmark : commands[i]? = some .taperMark) :
    t.mark = some i ∧ (leadUp commands i).Nonempty ∨
      t.mark = none ∧ t = inactive ∧ leadUp commands i = ∅ := by
  have hself : NextMark commands i i := NextMark.self hmark
  cases hm : t.mark with
  | some m =>
      have heq : m = i := (h.ahead m hm).unique hself
      subst m
      exact Or.inl ⟨rfl, h.begun i hm⟩
  | none =>
      have hmarked : t.unmarked = false := by
        by_contra hunmarked
        exact (h.unmarked (by simpa using hunmarked)).2 i hself
      have hinactive := h.eq_inactive hm
      rw [← hmarked] at hinactive
      refine Or.inr ⟨rfl, hinactive, ?_⟩
      rw [h.fresh hm i hself, drawsUpTo_self]

theorem Fits.mark_eq_none_of_pop (h : t.Fits taper commands i)
    (hpop : commands[i]? = some .pop) : t.mark = none := by
  cases hm : t.mark with
  | none => rfl
  | some m => exact absurd hpop (h.ahead m hm).command_ne_pop

/-- A run that is looked up at a segment is right for it. -/
theorem ready_begin (hforward : commands[i]? = some .forward)
    (hfresh : ∀ m, NextMark commands i m → leadUp commands m = drawsUpTo commands i m) :
    (begin taper i (commands.drop i)).Ready taper commands i := by
  unfold begin
  cases hscan : MarkedRun.scan i (commands.drop i) with
  | some found =>
      obtain ⟨hnext, hsegments, hpos⟩ := MarkedRun.scan_drop_eq_some_iff.mp hscan
      have hall := hfresh found.mark hnext
      refine ⟨⟨?_, ?_, ?_, ?_, nofun, nofun, nofun⟩, ?_⟩
      · rintro m ⟨rfl⟩
        exact hnext
      · rintro m ⟨rfl⟩
        exact hsegments
      · rintro m ⟨rfl⟩
        rw [hall, ← Finset.card_pos, ← hsegments]
        exact hpos
      · rintro m ⟨rfl⟩
        rw [hall, ← hsegments]
      · intro m hm
        exact congrArg some (hnext.unique hm)
  | none =>
      have hempty := MarkedRun.scan_drop_eq_none_iff.mp hscan
      have hnothing : ∀ m, ¬ NextMark commands i m := by
        intro m hnext
        have hcard := card_drawsUpTo_of_forward hforward (hnext.lt (by simp [hforward]))
        rw [hempty m hnext, Finset.card_empty] at hcard
        omega
      refine ⟨⟨nofun, nofun, nofun, nofun, fun _ => ⟨rfl, rfl⟩, ?_, ?_⟩, ?_⟩
      · intro _
        exact ⟨rfl, hnothing⟩
      · intro _ m hnext
        exact absurd hnext (hnothing m)
      · intro m hnext
        exact absurd hnext (hnothing m)

theorem Fits.lookUp (h : t.Fits taper commands i) (hforward : commands[i]? = some .forward) :
    (t.lookUp taper i (commands.drop i)).Ready taper commands i := by
  have hmark : commands[i]? ≠ some .taperMark := by simp [hforward]
  unfold TaperRun.lookUp
  by_cases hscan : t.needsScan = true
  · rw [if_pos hscan]
    -- a run that is under way has this segment left
    have hnone : t.mark = none := by
      cases hm : t.mark with
      | none => rfl
      | some m =>
          have hcard := card_drawsUpTo_of_forward hforward ((h.ahead m hm).lt hmark)
          have hcounted := h.counted m hm
          simp only [needsScan, isActive, Bool.and_eq_true, Bool.not_eq_true',
            decide_eq_false_iff_not] at hscan
          omega
    exact ready_begin hforward (h.fresh hnone)
  · rw [if_neg hscan]
    refine ⟨h, ?_⟩
    intro m hnext
    cases hm : t.mark with
    | some m' => rw [(h.ahead m' hm).unique hnext]
    | none =>
        have hunmarked : t.unmarked = true := by
          have hremaining := (h.idle hm).1
          simpa [needsScan, isActive, hremaining] using hscan
        exact absurd hnext ((h.unmarked hunmarked).2 m)

theorem Ready.factor_eq (h : t.Ready taper commands i) (hforward : commands[i]? = some .forward)
    (hnext : NextMark commands i m) :
    t.factor = gradualDecay taper (leadUp commands m).card := by
  have hmark : commands[i]? ≠ some .taperMark := by simp [hforward]
  have hm := h.found m hnext
  have hcard := card_drawsUpTo_of_forward hforward (hnext.lt hmark)
  have hactive : t.isActive = true := by
    have hcounted := h.counted m hm
    simp only [isActive, decide_eq_true_eq]
    omega
  rw [factor, if_pos hactive, h.spread m hm]

theorem Ready.factor_eq_one (h : t.Ready taper commands i)
    (hnothing : ∀ m, ¬ NextMark commands i m) : t.factor = 1 := by
  have hnone : t.mark = none := by
    cases hm : t.mark with
    | none => rfl
    | some m => exact absurd (h.ahead m hm) (hnothing m)
  have hinactive : ¬ t.isActive = true := by
    have hremaining := (h.idle hnone).1
    simp [isActive, hremaining]
  rw [factor, if_neg hinactive]

theorem Ready.advance (h : t.Ready taper commands i) (hforward : commands[i]? = some .forward)
    (hm : t.mark = some m) :
    t.afterSegment = t.advance ∧ t.advance.Fits taper commands (i + 1) := by
  have hfollows : Follows commands i (i + 1) := .command hforward rfl
  have hmark : commands[i]? ≠ some .taperMark := by simp [hforward]
  have hnext := h.ahead m hm
  have hcard := card_drawsUpTo_of_forward hforward (hnext.lt hmark)
  have hcounted := h.counted m hm
  constructor
  · rw [TaperRun.afterSegment, if_pos]
    simp only [isActive, decide_eq_true_eq]
    omega
  have hmarked : t.advance.mark = some m := hm
  constructor
  · intro m' hm'
    obtain rfl : m = m' := Option.some.inj (hm.symm.trans hm')
    exact (hfollows.nextMark_iff hmark).mp hnext
  · intro m' hm'
    obtain rfl : m = m' := Option.some.inj (hm.symm.trans hm')
    simp only [TaperRun.advance]
    omega
  · exact h.begun
  · exact h.spread
  · simp [hmarked]
  · intro hunmarked
    have hnone := (h.unmarked hunmarked).1
    simp [hm] at hnone
  · simp [hmarked]

theorem Ready.rest (h : t.Ready taper commands i) (hforward : commands[i]? = some .forward)
    (hm : t.mark = none) : t.afterSegment = t ∧ t.Fits taper commands (i + 1) := by
  have hfollows : Follows commands i (i + 1) := .command hforward rfl
  have hnothing : ∀ m, ¬ NextMark commands (i + 1) m := by
    intro m hnext
    have hfound := h.found m ((hfollows.nextMark_iff (by simp [hforward])).mpr hnext)
    simp [hm] at hfound
  obtain ⟨hremaining, hdecay⟩ := h.idle hm
  constructor
  · rw [TaperRun.afterSegment, if_neg]
    simp [isActive, hremaining]
  constructor
  · simp [hm]
  · simp [hm]
  · simp [hm]
  · simp [hm]
  · exact h.idle
  · intro _
    exact ⟨hm, hnothing⟩
  · intro _ m hnext
    exact absurd hnext (hnothing m)

theorem Ready.afterSegment (h : t.Ready taper commands i)
    (hforward : commands[i]? = some .forward) :
    t.afterSegment.Fits taper commands (i + 1) := by
  cases hm : t.mark with
  | some m =>
      obtain ⟨hafter, hfits⟩ := h.advance hforward hm
      rw [hafter]
      exact hfits
  | none =>
      obtain ⟨hafter, hfits⟩ := h.rest hforward hm
      rw [hafter]
      exact hfits

end TaperRun

namespace Visit

variable (S : Setting α β σ) (v : Visit α β σ)

theorem after_taper (hpop : v.command ≠ .pop) :
    (v.after S).turtle.taper =
      match v.command with
      | .forward => (v.taperRun S).afterSegment
      | .taperMark =>
        if v.walk.turtle.taper.endsAt v.index then TaperRun.inactive else v.walk.turtle.taper
      | .push => TaperRun.inactive
      | _ => v.walk.turtle.taper := by
  cases hcommand : v.command <;>
    simp_all [after, Walk.step, Walk.sprout_eq, Walk.mark_eq, Walk.draw, Walk.turn,
      Walk.turnAround, Walk.push, Turtle.rotate, taperRun, ahead]

end Visit

namespace Setting

variable {S : Setting α β σ}

/-- A run is looked up only where it is right to: the segment at a visit always has its own. -/
theorem ready_of_fits {v : Visit α β σ} (hv : v ∈ S.course) (hforward : v.command = .forward)
    (hfits : v.walk.turtle.taper.Fits S.habit.taper S.commands v.index) :
    (v.taperRun S).Ready S.habit.taper S.commands v.index := by
  rw [Visit.taperRun, ← drop_index hv]
  exact hfits.lookUp (hforward ▸ command_at_index hv)

theorem fits_after {u : Visit α β σ} (hu : u ∈ S.course) (hpop : u.command ≠ .pop)
    (hfits : u.walk.turtle.taper.Fits S.habit.taper S.commands u.index) :
    (u.after S).turtle.taper.Fits S.habit.taper S.commands (u.index + 1) := by
  have hcommand := command_at_index hu
  rw [Visit.after_taper S u hpop]
  cases hc : u.command with
  | forward => exact (ready_of_fits hu hc hfits).afterSegment (hc ▸ hcommand)
  | taperMark =>
      have hinactive :
          (if u.walk.turtle.taper.endsAt u.index then TaperRun.inactive
            else u.walk.turtle.taper) = TaperRun.inactive := by
        rcases hfits.cases_of_mark (hc ▸ hcommand) with ⟨hmark, _⟩ | ⟨_, hinactive, _⟩
        · simp [TaperRun.endsAt, hmark]
        · rw [hinactive, ite_self]
      simp only [hinactive]
      exact TaperRun.fits_inactive (Or.inr ⟨u.index, rfl, hc ▸ hcommand⟩)
  | push =>
      exact TaperRun.fits_inactive (Or.inl (Or.inr ⟨u.index, rfl, Or.inl (hc ▸ hcommand)⟩))
  | pop => exact absurd hc hpop
  | _ =>
      have hfollows : Follows S.commands u.index (u.index + 1) :=
        .command hcommand (by rw [hc]; rfl)
      exact hfits.follow hfollows (by simp [hcommand, hc]) (by simp [hcommand, hc])

/-- At every visit the turtle has noted what is right for its position. -/
theorem fits_of_mem {v : Visit α β σ} (hv : v ∈ S.course) :
    v.walk.turtle.taper.Fits S.habit.taper S.commands v.index := by
  refine turtle_induction (P := fun i t => t.taper.Fits S.habit.taper S.commands i) ?_ ?_ ?_ ?_ hv
  · exact TaperRun.fits_inactive (Or.inl (Or.inl rfl))
  · intro u hu hpop hfits
    exact fits_after hu hpop hfits
  · intro p q t hmatched hfits
    exact hfits.behind_branch hmatched
  · intro u hu hpop hunmatched hfits
    have hcommand := command_at_index hu
    have hnone := hfits.mark_eq_none_of_pop (hpop ▸ hcommand)
    have hinactive := hfits.eq_inactive hnone
    simp only [hinactive]
    exact TaperRun.fits_inactive
      (Or.inl (Or.inr ⟨u.index, rfl, Or.inr ⟨hpop ▸ hcommand, hunmatched⟩⟩))

end Setting

end PlantGrowth
