import PlantGrowth.Proofs.ExactArithmetic
import PlantGrowth.Proofs.TaperRuns

/-!
# The taper policy

What a mark does is settled by the segments before it.  With segments since the last mark of the
scope it does nothing itself, because each of them has already narrowed by its share; without any
it narrows at once.  Behind the last mark of a scope nothing narrows.  All of this is said by the
scopes of the word, and follows from what the turtle has noted at each visit.
-/

namespace PlantGrowth

open Brackets

variable {α β σ : Type} [Scalar α]

section

open Scalar

namespace Visit

variable (S : Setting α β σ) (v : Visit α β σ)

theorem after_width (hpop : v.command ≠ .pop) :
    (v.after S).turtle.width =
      match v.command with
      | .forward => v.walk.turtle.width * (v.segment S).decay
      | .taperMark =>
        if v.walk.turtle.taper.endsAt v.index then v.walk.turtle.width
        else v.walk.turtle.width * S.habit.taper
      | _ => v.walk.turtle.width := by
  cases hcommand : v.command <;>
    simp_all [after, Walk.step, Walk.sprout_eq, Walk.mark_eq, Walk.draw, Walk.turn,
      Walk.turnAround, Walk.push, Turtle.rotate, segment, taperRun, ahead, Walk.segment]

end Visit

namespace Setting

variable {S : Setting α β σ} {u v : Visit α β σ} {m o : Nat}

/-! ## One segment, one mark -/

theorem decay_of_nextMark (hv : v ∈ S.course) (hforward : v.command = .forward)
    (hnext : NextMark S.commands v.index m) :
    (v.segment S).decay = gradualDecay S.habit.taper (leadUp S.commands m).card :=
  (ready_of_fits hv hforward (fits_of_mem hv)).factor_eq (hforward ▸ command_at_index hv) hnext

theorem decay_of_no_mark (hv : v ∈ S.course) (hforward : v.command = .forward)
    (hnothing : ∀ m, ¬ NextMark S.commands v.index m) : (v.segment S).decay = 1 :=
  (ready_of_fits hv hforward (fits_of_mem hv)).factor_eq_one hnothing

theorem width_of_gradual_mark (hv : v ∈ S.course) (hmark : v.command = .taperMark)
    (hrun : (leadUp S.commands v.index).Nonempty) :
    (v.after S).turtle.width = v.walk.turtle.width := by
  rw [Visit.after_width S v (by simp [hmark]), hmark]
  rcases (fits_of_mem hv).cases_of_mark (hmark ▸ command_at_index hv) with
    ⟨hnoted, _⟩ | ⟨_, _, hempty⟩
  · simp [TaperRun.endsAt, hnoted]
  · exact absurd hempty hrun.ne_empty

theorem width_of_instant_mark (hv : v ∈ S.course) (hmark : v.command = .taperMark)
    (hrun : leadUp S.commands v.index = ∅) :
    (v.after S).turtle.width = v.walk.turtle.width * S.habit.taper := by
  rw [Visit.after_width S v (by simp [hmark]), hmark]
  rcases (fits_of_mem hv).cases_of_mark (hmark ▸ command_at_index hv) with
    ⟨_, hbegun⟩ | ⟨hnone, _, _⟩
  · exact absurd hrun hbegun.ne_empty
  · simp [TaperRun.endsAt, hnone]

/-! ## A whole run -/

/-- Passing a position of a scope that is not a mark narrows by the share of a segment, if there
is one to draw, and not at all otherwise. -/
theorem exists_visit_follows {i' : Nat} (hu : u ∈ S.course) (hv : v ∈ S.course)
    (hfollows : Follows S.commands u.index i') (hle : i' ≤ v.index)
    (hmark : S.commands[u.index]? ≠ some .taperMark) :
    ∃ w ∈ S.course, w.index = i' ∧
      w.walk.turtle.width =
        if u.command = .forward then u.walk.turtle.width * (u.segment S).decay
        else u.walk.turtle.width := by
  obtain ⟨w, hw, hindex⟩ := exists_visit_of_le hv hle
  have hcommand := command_at_index hu
  refine ⟨w, hw, hindex, ?_⟩
  cases hfollows with
  | command hc hrise =>
      obtain rfl := Option.some.inj (hc.symm.trans hcommand)
      have hpop : u.command ≠ .pop := by
        intro hpop
        simp [hpop, Command.rise] at hrise
      rw [walk_eq_after hu hw hindex, Visit.after_width S u hpop]
      cases hc' : u.command <;> simp_all
  | branch hmatched =>
      obtain ⟨x, hx, hxclose, hxwalk⟩ := exists_visit_before hw hindex
      subst hxclose
      obtain ⟨u', hu', hopen, hpush, _, hturtle, _⟩ := restored_of_matched hx hmatched
      have huu' := visit_unique hu' hu hopen
      subst u'
      simp [hxwalk, hturtle, hpush]

/-- On the way to the next mark the width is multiplied by the share of the run once for each
segment of the scope. -/
theorem width_at_mark (hu : u ∈ S.course) (hv : v ∈ S.course)
    (hnext : NextMark S.commands u.index v.index) :
    v.walk.turtle.width =
      (· * gradualDecay S.habit.taper
          (leadUp S.commands v.index).card)^[(drawsUpTo S.commands u.index v.index).card]
        u.walk.turtle.width := by
  -- the induction is on how far the mark is away, from one position of the scope to the next
  induction hgap : v.index - u.index using Nat.strongRecOn generalizing u with
  | ind gap ih =>
      by_cases heq : u.index = v.index
      · rw [visit_unique hu hv heq, drawsUpTo_self, Finset.card_empty]
        rfl
      · have hlt : u.index < v.index := Nat.lt_of_le_of_ne hnext.sameScope.le heq
        have hcommand := command_at_index hu
        have hmark := hnext.first u.index hlt (SameScope.refl _ _)
        obtain ⟨i', hfollows, hscope⟩ :=
          hnext.sameScope.exists_follows hlt hnext.lt_length.le
        obtain ⟨w, hw, hindex, hwidth⟩ := exists_visit_follows hu hv hfollows hscope.le hmark
        have hnext' : NextMark S.commands w.index v.index := by
          rw [hindex]
          exact (hfollows.nextMark_iff hmark).mp hnext
        have hpassed := hfollows.lt
        have hrest := ih (v.index - w.index) (by omega) hw hnext' rfl
        rw [hwidth] at hrest
        by_cases hforward : u.command = .forward
        · rw [hforward] at hcommand
          have hw' : w.index = u.index + 1 := by
            rw [hindex]
            cases hfollows with
            | command => rfl
            | branch hmatched => simp [hmatched.opens] at hcommand
          rw [if_pos hforward, hw', decay_of_nextMark hu hforward hnext] at hrest
          rw [card_drawsUpTo_of_forward hcommand hlt, Function.iterate_succ_apply]
          exact hrest
        · rw [if_neg hforward, hindex] at hrest
          rw [hfollows.drawsUpTo_eq (by simpa [hcommand] using hforward)]
          exact hrest

/-- From the beginning of a run to its mark, each segment of the run narrows by its share. -/
theorem width_through_run (hu : u ∈ S.course) (hv : v ∈ S.course)
    (hnext : NextMark S.commands u.index v.index)
    (hstart : ∀ j ∈ leadUp S.commands v.index, u.index ≤ j) :
    v.walk.turtle.width =
      (· * gradualDecay S.habit.taper
          (leadUp S.commands v.index).card)^[(leadUp S.commands v.index).card]
        u.walk.turtle.width := by
  have hwidth := width_at_mark hu hv hnext
  rwa [← hnext.leadUp_eq hstart] at hwidth

/-! ## The policy by scopes -/

/-- What becomes of the width at the mark that `v` visits, in the scope that opens at `o`. -/
structure MarkPolicy (S : Setting α β σ) (o : Nat) (v : Visit α β σ) : Prop where
  gradual : (run S.commands o v.index).Nonempty →
    (v.after S).turtle.width = v.walk.turtle.width
  instant : run S.commands o v.index = ∅ →
    (v.after S).turtle.width = v.walk.turtle.width * S.habit.taper
  shares : ∀ j ∈ run S.commands o v.index, ∃ u ∈ S.course, u.index = j ∧ u.command = .forward ∧
    (u.segment S).decay = gradualDecay S.habit.taper (run S.commands o v.index).card
  through : ∀ u ∈ S.course, NextMark S.commands u.index v.index →
    (∀ j ∈ run S.commands o v.index, u.index ≤ j) →
      v.walk.turtle.width =
        (· * gradualDecay S.habit.taper
            (run S.commands o v.index).card)^[(run S.commands o v.index).card]
          u.walk.turtle.width
  exact : ExactProducts α → (run S.commands o v.index).Nonempty →
    power (gradualDecay S.habit.taper (run S.commands o v.index).card)
        (run S.commands o v.index).card = lesser S.habit.taper 1 →
      ∀ u ∈ S.course, NextMark S.commands u.index v.index →
        (∀ j ∈ run S.commands o v.index, u.index ≤ j) →
          (v.after S).turtle.width = u.walk.turtle.width * lesser S.habit.taper 1

/-- How the segment drawn at `v` narrows, in the scope that opens at `o`. -/
structure DrawPolicy (S : Setting α β σ) (o : Nat) (v : Visit α β σ) : Prop where
  share : ∀ m, NextMark S.commands v.index m →
    (v.segment S).decay = gradualDecay S.habit.taper (run S.commands o m).card
  last : (∀ m, v.index < m → SameScope S.commands o m →
      S.commands[m]? ≠ some .taperMark) → (v.segment S).decay = 1

theorem markPolicy_of_inScope (hv : v ∈ S.course) (hmark : v.command = .taperMark)
    (hscope : InScope S.commands o v.index) : MarkPolicy S o v := by
  have hcommand : S.commands[v.index]? = some .taperMark := hmark ▸ command_at_index hv
  have hrun : run S.commands o v.index = leadUp S.commands v.index :=
    hscope.run_eq_leadUp hcommand
  constructor
  · rw [hrun]
    exact width_of_gradual_mark hv hmark
  · rw [hrun]
    exact width_of_instant_mark hv hmark
  · rw [hrun]
    intro j hj
    obtain ⟨hlt, hforward, hnext⟩ := mem_leadUp.mp hj
    obtain ⟨u, hu, rfl⟩ := exists_visit_of_le hv hlt.le
    have hdraw := command_eq hu hforward
    exact ⟨u, hu, rfl, hdraw, decay_of_nextMark hu hdraw hnext⟩
  · rw [hrun]
    intro u hu
    exact width_through_run hu hv
  · rw [hrun]
    intro hexact hgradual hpower u hu hnext hstart
    rw [width_of_gradual_mark hv hmark hgradual, width_through_run hu hv hnext hstart,
      hexact.iterate_mul, hpower]

theorem drawPolicy_of_inScope (hv : v ∈ S.course) (hforward : v.command = .forward)
    (hscope : InScope S.commands o v.index) : DrawPolicy S o v := by
  constructor
  · intro m hnext
    have hmscope : InScope S.commands o m :=
      ⟨hscope.opens, hscope.sameScope.trans hnext.sameScope⟩
    rw [hmscope.run_eq_leadUp hnext.marks]
    exact decay_of_nextMark hv hforward hnext
  · intro hlast
    apply decay_of_no_mark hv hforward
    intro m hnext
    have hcommand := command_at_index hv
    have hlt := hnext.lt (by simp [hcommand, hforward])
    exact hlast m hlt (hscope.sameScope.trans hnext.sameScope) hnext.marks

/-- The taper policy of a whole walk.  Every position lies in one scope, and what a mark or a
segment there does to the width depends on the scope alone: a mark with segments behind the last
mark of the scope is spread over exactly these, a mark without any narrows once, and a segment
that no mark of the scope follows does not narrow. -/
theorem taper_policy (hv : v ∈ S.course) :
    ∃ o, InScope S.commands o v.index ∧
      (∀ o', InScope S.commands o' v.index → o' = o) ∧
      (v.command = .taperMark → MarkPolicy S o v) ∧
      (v.command = .forward → DrawPolicy S o v) := by
  have hlt : v.index < S.commands.length :=
    (List.getElem?_eq_some_iff.mp (command_at_index hv)).1
  obtain ⟨o, hscope⟩ := exists_inScope hlt.le
  refine ⟨o, hscope, ?_, ?_, ?_⟩
  · intro o' hscope'
    exact hscope'.unique hscope
  · intro hmark
    exact markPolicy_of_inScope hv hmark hscope
  · intro hforward
    exact drawPolicy_of_inScope hv hforward hscope

end Setting

end

namespace Setting

theorem taper_policy_shrub :
    ∃ u ∈ (shrub ℝ 9).course, u.index = 0 ∧ ∃ v ∈ (shrub ℝ 9).course, v.index = 11 ∧
      run (shrub ℝ 9).commands 0 11 = {0, 10} ∧ MarkPolicy (shrub ℝ 9) 0 v ∧
      (v.after (shrub ℝ 9)).turtle.width =
        u.walk.turtle.width * min (shrub ℝ 9).habit.taper 1 := by
  have hlength : 11 < (shrub ℝ 9).course.length := by decide
  obtain ⟨v, hv, hlast⟩ : ∃ v ∈ (shrub ℝ 9).course, v.index = 11 :=
    ⟨_, List.getElem_mem hlength, rfl⟩
  obtain ⟨u, hu, hfirst⟩ := exists_visit_of_le hv (Nat.zero_le v.index)
  have hmark : v.command = .taperMark := command_eq hv (by rw [hlast]; rfl)
  have hscope : InScope (shrub ℝ 9).commands 0 v.index :=
    ⟨Or.inl rfl, by rw [hlast]; decide⟩
  have hrun : run (shrub ℝ 9).commands 0 v.index = {0, 10} := by
    rw [hlast]
    decide +kernel
  obtain ⟨o, _, hunique, hpolicy, _⟩ := taper_policy hv
  obtain rfl : 0 = o := hunique 0 hscope
  have hexact := (hpolicy hmark).exact exactProducts_real
  rw [hrun] at hexact
  have htaper : (0 : ℝ) ≤ (shrub ℝ 9).habit.taper := by
    have hratio : (shrub ℝ 9).habit.taper = ((7 : ℕ) : ℝ) / ((10 : ℕ) : ℝ) := rfl
    rw [hratio]
    positivity
  have hnext : NextMark (shrub ℝ 9).commands u.index v.index := by
    rw [hfirst, hlast]
    decide +kernel
  refine ⟨u, hu, hfirst, v, hv, hlast, hlast ▸ hrun, hpolicy hmark, ?_⟩
  rw [← lesser_one_real]
  exact hexact (by simp) (power_gradualDecay_real htaper (by simp)) u hu hnext
    (fun j _ => by rw [hfirst]; exact Nat.zero_le j)

/-- Over the reals a run narrows by exactly the taper factor, and never widens. -/
theorem width_through_run_real {β σ : Type} {S : Setting ℝ β σ} {u v : Visit ℝ β σ}
    (htaper : 0 ≤ S.habit.taper) (hu : u ∈ S.course) (hv : v ∈ S.course)
    (hnext : NextMark S.commands u.index v.index)
    (hstart : ∀ j ∈ leadUp S.commands v.index, u.index ≤ j)
    (hrun : (leadUp S.commands v.index).Nonempty) :
    v.walk.turtle.width = u.walk.turtle.width * min S.habit.taper 1 := by
  have hcard : (leadUp S.commands v.index).card ≠ 0 := Finset.card_ne_zero.mpr hrun
  rw [width_through_run hu hv hnext hstart, exactProducts_real.iterate_mul,
    power_gradualDecay_real htaper hcard, lesser_one_real]

end Setting

end PlantGrowth
