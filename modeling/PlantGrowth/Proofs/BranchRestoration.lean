import PlantGrowth.Proofs.Brackets
import PlantGrowth.Proofs.Course

/-!
# What a side branch restores

The stack of a walk is compared with the bracket structure of its word.  Inside a pair of brackets
the stack is what it was at the `push`, with the turtle of the `push` on it and with as many more
turtles as brackets are open since then.  So the `pop` that belongs to the `push` finds exactly
that turtle, and the walk goes on as if it had not left the branch.  Conversely a turtle on the
stack comes from a `push` that is still open, so a `pop` without a `push` of its own finds the
stack empty.
-/

namespace PlantGrowth

open Brackets

variable {α β σ : Type} [Scalar α]

namespace Visit

variable (S : Setting α β σ) (v : Visit α β σ)

theorem after_stack :
    (v.after S).stack =
      match v.command with
      | .push => v.walk.turtle :: v.walk.stack
      | .pop => v.walk.stack.tail
      | _ => v.walk.stack := by
  cases hcommand : v.command <;>
    simp [after, hcommand, Walk.step, Walk.sprout_eq, Walk.mark_eq, Walk.pop_eq,
      Walk.draw, Walk.turn, Walk.turnAround, Walk.push]

theorem after_turtle_of_pop (hcommand : v.command = .pop) :
    (v.after S).turtle =
      v.walk.stack.headD
        { v.walk.turtle with taper := { v.walk.turtle.taper with unmarked := false } } := by
  simp [after, hcommand, Walk.step, Walk.pop_eq]

end Visit

namespace Setting

variable {S : Setting α β σ}

/-- As long as the walk is inside a side branch, the stack holds what it held at the `push` and
one turtle more for every bracket that has been opened in the branch. -/
theorem stack_inside_branch {u v : Visit α β σ} (hu : u ∈ S.course) (hv : v ∈ S.course)
    (hpush : u.command = .push) (hlt : u.index < v.index)
    (hinside : ∀ k, u.index < k → k ≤ v.index →
      height S.commands u.index < height S.commands k) :
    ∃ inner : BranchStack α,
      v.walk.stack = inner ++ u.walk.turtle :: u.walk.stack ∧
        (inner.length : Int) + (height S.commands u.index + 1) =
          height S.commands v.index := by
  refine visit_induction (S := S)
    (P := fun v => u.index < v.index →
      (∀ k, u.index < k → k ≤ v.index →
        height S.commands u.index < height S.commands k) →
      ∃ inner : BranchStack α,
        v.walk.stack = inner ++ u.walk.turtle :: u.walk.stack ∧
          (inner.length : Int) + (height S.commands u.index + 1) =
            height S.commands v.index) ?_ ?_ hv hlt hinside
  · intro v _ hzero _ hlt _
    omega
  · intro w hw v hv hindex hwalk ih hlt hinside
    have hhigh := hinside v.index hlt (le_refl _)
    rw [hindex] at hhigh ⊢
    rw [hwalk, Visit.after_stack]
    rcases Nat.eq_or_lt_of_le (Nat.le_of_lt_succ (hindex ▸ hlt)) with heq | hlater
    · -- the first command of the branch
      have huw : u = w := visit_unique hu hw heq
      subst w
      have hup := height_succ_of_push (hpush ▸ command_at_index hu)
      exact ⟨[], by simp [hpush], by simp [hup]⟩
    · obtain ⟨inner, hstack, hlength⟩ := ih w hw (le_refl _) hlater
        (fun k huk hkw => hinside k huk (by omega))
      have hcommand := command_at_index hw
      cases hc : w.command with
      | push =>
          have hup := height_succ_of_push (hc ▸ hcommand)
          refine ⟨w.walk.turtle :: inner, by simp [hstack], ?_⟩
          simp only [List.length_cons, Nat.cast_add, Nat.cast_one]
          omega
      | pop =>
          have hdown := height_succ_of_pop (hc ▸ hcommand)
          cases inner with
          | nil =>
              simp only [List.length_nil, Nat.cast_zero] at hlength
              omega
          | cons _ inner =>
              refine ⟨inner, by simp [hstack], ?_⟩
              simp only [List.length_cons, Nat.cast_add, Nat.cast_one] at hlength
              omega
      | _ =>
          have hlevel := height_succ_of_rise_eq_zero hcommand (by rw [hc]; rfl)
          exact ⟨inner, hstack, by omega⟩

/-- A turtle on the stack was put there by a `push` that is still open. -/
theorem exists_open_of_stack {v : Visit α β σ} (hv : v ∈ S.course) {saved : Turtle α}
    {outer : BranchStack α} (hstack : v.walk.stack = saved :: outer) :
    ∃ u ∈ S.course, u.command = .push ∧ u.walk.turtle = saved ∧ u.walk.stack = outer ∧
      SameScope S.commands (u.index + 1) v.index := by
  refine visit_induction (S := S)
    (P := fun v => ∀ saved outer, v.walk.stack = saved :: outer →
      ∃ u ∈ S.course, u.command = .push ∧ u.walk.turtle = saved ∧ u.walk.stack = outer ∧
        SameScope S.commands (u.index + 1) v.index) ?_ ?_ hv saved outer hstack
  · intro v _ _ hwalk saved outer hstack
    rw [hwalk] at hstack
    exact absurd hstack (by simp [Setting.start, Walk.begin])
  · intro w hw v hv hindex hwalk ih saved outer hstack
    have hcommand := command_at_index hw
    rw [hwalk, Visit.after_stack] at hstack
    rw [hindex]
    cases hc : w.command with
    | push =>
        simp only [hc, List.cons.injEq] at hstack
        exact ⟨w, hw, hc, hstack.1, hstack.2, SameScope.refl _ _⟩
    | pop =>
        -- the branch that ends here was opened inside the one that is open now
        simp only [hc] at hstack
        obtain ⟨top, hwstack⟩ : ∃ top, w.walk.stack = top :: saved :: outer := by
          cases hw' : w.walk.stack with
          | nil => simp [hw'] at hstack
          | cons top below => exact ⟨top, by simpa [hw'] using hstack⟩
        obtain ⟨x, hx, hxpush, _, hxstack, hxscope⟩ :=
          ih w hw (le_refl _) top (saved :: outer) hwstack
        obtain ⟨u, hu, hupush, hsaved, houter, huscope⟩ :=
          ih x hx (by have := hxscope.le; omega) saved outer hxstack
        have hmatched : Matched S.commands x.index w.index :=
          ⟨hxpush ▸ command_at_index hx, hc ▸ hcommand, hxscope⟩
        exact ⟨u, hu, hupush, hsaved, houter, huscope.trans hmatched.sameScope⟩
    | _ =>
        simp only [hc] at hstack
        obtain ⟨u, hu, hupush, hsaved, houter, hscope⟩ :=
          ih w hw (le_refl _) saved outer hstack
        exact ⟨u, hu, hupush, hsaved, houter, hscope.succ_right hcommand (by rw [hc]; rfl)⟩

/-- So was every turtle further down: from its `push` on the walk has stayed higher. -/
theorem exists_open_of_mem_stack {v : Visit α β σ} (hv : v ∈ S.course) {saved : Turtle α}
    {inner outer : BranchStack α} (hstack : v.walk.stack = inner ++ saved :: outer) :
    ∃ u ∈ S.course, u.command = .push ∧ u.walk.turtle = saved ∧ u.walk.stack = outer ∧
      u.index < v.index ∧ ∀ k, u.index < k → k ≤ v.index →
        height S.commands u.index < height S.commands k := by
  induction inner generalizing v with
  | nil =>
      obtain ⟨u, hu, hpush, hsaved, houter, hscope⟩ := exists_open_of_stack hv hstack
      refine ⟨u, hu, hpush, hsaved, houter, hscope.le, ?_⟩
      intro k huk hkv
      exact hscope.height_lt_of_push (hpush ▸ command_at_index hu) huk hkv
  | cons top inner ih =>
      obtain ⟨x, hx, hxpush, _, hxstack, hxscope⟩ := exists_open_of_stack hv hstack
      obtain ⟨u, hu, hpush, hsaved, houter, hlt, hhigh⟩ := ih hx hxstack
      refine ⟨u, hu, hpush, hsaved, houter, hlt.trans hxscope.le, ?_⟩
      intro k huk hkv
      rcases Nat.lt_or_ge x.index k with hxk | hkx
      · have hbranch := hhigh x.index hlt (le_refl _)
        exact hbranch.trans (hxscope.height_lt_of_push (hxpush ▸ command_at_index hx) hxk hkv)
      · exact hhigh k huk hkx

theorem stack_at_close {u v : Visit α β σ} (hu : u ∈ S.course) (hv : v ∈ S.course)
    (hmatched : Matched S.commands u.index v.index) :
    v.walk.stack = u.walk.turtle :: u.walk.stack := by
  have hpush := command_eq hu hmatched.opens
  obtain ⟨inner, hstack, hlength⟩ :=
    stack_inside_branch hu hv hpush hmatched.lt (fun _ => hmatched.height_lt)
  have hclose := hmatched.inside.height_eq
  rw [height_succ_of_push hmatched.opens] at hclose
  have hnil : inner = [] := by
    apply List.length_eq_zero_iff.mp
    omega
  rw [hstack, hnil, List.nil_append]

/-- The `pop` of a side branch gives back the turtle and the stack of its `push`. -/
theorem restored_of_matched {v : Visit α β σ} (hv : v ∈ S.course) {p : Nat}
    (hmatched : Matched S.commands p v.index) :
    ∃ u ∈ S.course, u.index = p ∧ u.command = .push ∧ v.command = .pop ∧
      (v.after S).turtle = u.walk.turtle ∧ (v.after S).stack = u.walk.stack := by
  obtain ⟨u, hu, rfl⟩ := exists_visit_of_le hv hmatched.lt.le
  have hpush := command_eq hu hmatched.opens
  have hpop := command_eq hv hmatched.closes
  have hstack := stack_at_close hu hv hmatched
  refine ⟨u, hu, rfl, hpush, hpop, ?_, ?_⟩
  · rw [Visit.after_turtle_of_pop S v hpop, hstack, List.headD_cons]
  · simp only [Visit.after_stack, hpop, hstack, List.tail_cons]

theorem stack_eq_nil_of_unmatched {v : Visit α β σ} (hv : v ∈ S.course)
    (hpop : v.command = .pop) (hunmatched : ∀ p, ¬ Matched S.commands p v.index) :
    v.walk.stack = [] := by
  cases hstack : v.walk.stack with
  | nil => rfl
  | cons saved outer =>
      obtain ⟨u, hu, hpush, _, _, hscope⟩ := exists_open_of_stack hv hstack
      exact absurd
        ⟨hpush ▸ command_at_index hu, hpop ▸ command_at_index hv, hscope⟩
        (hunmatched u.index)

/-- What is carried past each command, and past a side branch as a whole, is true of the turtle at
every visit: the bracket that ends a branch need not be looked at. -/
theorem turtle_induction {P : Nat → Turtle α → Prop} (hstart : P 0 S.start.turtle)
    (hnext : ∀ u ∈ S.course, u.command ≠ .pop → P u.index u.walk.turtle →
      P (u.index + 1) (u.after S).turtle)
    (hbranch : ∀ p q t, Matched S.commands p q → P p t → P (q + 1) t)
    (hstray : ∀ u ∈ S.course, u.command = .pop → (∀ p, ¬ Matched S.commands p u.index) →
      P u.index u.walk.turtle →
        P (u.index + 1)
          { u.walk.turtle with taper := { u.walk.turtle.taper with unmarked := false } })
    {v : Visit α β σ} (hv : v ∈ S.course) : P v.index v.walk.turtle := by
  refine visit_induction (P := fun v => P v.index v.walk.turtle) ?_ ?_ hv
  · intro v _ hzero hwalk
    rw [hzero, hwalk]
    exact hstart
  · intro u hu v _ hindex hwalk ih
    rw [hindex, hwalk]
    by_cases hpop : u.command = .pop
    · by_cases hmatched : ∃ p, Matched S.commands p u.index
      · -- the branch that ends here takes the turtle back to its `push`
        obtain ⟨p, hmatched⟩ := hmatched
        obtain ⟨x, hx, rfl, _, _, hturtle, _⟩ := restored_of_matched hu hmatched
        rw [hturtle]
        exact hbranch _ _ _ hmatched (ih x hx hmatched.lt.le)
      · have hunmatched : ∀ p, ¬ Matched S.commands p u.index := fun p hp => hmatched ⟨p, hp⟩
        have hempty := stack_eq_nil_of_unmatched hu hpop hunmatched
        rw [Visit.after_turtle_of_pop S u hpop, hempty, List.headD_nil]
        exact hstray u hu hpop hunmatched (ih u hu (le_refl _))
    · exact hnext u hu hpop (ih u hu (le_refl _))

theorem not_matched_of_ne_pop {u : Visit α β σ} (hu : u ∈ S.course) (hpop : u.command ≠ .pop)
    (p : Nat) : ¬ Matched S.commands p u.index := by
  intro hmatched
  exact hpop (command_eq hu hmatched.closes)

/-- A side branch leaves no trace on the turtle and on the open branches: whatever stands between
a `push` and its `pop`, behind the `pop` both are what they were before the `push`. -/
theorem side_branch_restores {p q : Nat} (hmatched : Matched S.commands p q) {v : Visit α β σ}
    (hv : v ∈ S.course) (hclose : v.index = q) :
    ∃ u ∈ S.course, u.index = p ∧
      (v.after S).turtle = u.walk.turtle ∧ (v.after S).stack = u.walk.stack ∧
      ∀ w ∈ S.course, w.index = q + 1 →
        w.walk.turtle = u.walk.turtle ∧ w.walk.stack = u.walk.stack := by
  subst q
  obtain ⟨u, hu, hopen, _, _, hturtle, hstack⟩ := restored_of_matched hv hmatched
  refine ⟨u, hu, hopen, hturtle, hstack, ?_⟩
  intro w hw hnext
  rw [walk_eq_after hv hw hnext]
  exact ⟨hturtle, hstack⟩

theorem side_branch_restores_shrub :
    Matched (shrub Float32 9).commands 1 9 ∧
      ∃ v ∈ (shrub Float32 9).course, v.index = 9 ∧ ∃ u ∈ (shrub Float32 9).course, u.index = 1 ∧
        (v.after (shrub Float32 9)).turtle = u.walk.turtle ∧
        (v.after (shrub Float32 9)).stack = u.walk.stack := by
  have hmatched : Matched (shrub Float32 9).commands 1 9 := ⟨rfl, rfl, by decide⟩
  have hlength : 9 < (shrub Float32 9).course.length := by decide
  have hv := List.getElem_mem hlength
  obtain ⟨u, hu, hopen, hturtle, hstack, _⟩ := side_branch_restores hmatched hv rfl
  exact ⟨hmatched, _, hv, rfl, u, hu, hopen, hturtle, hstack⟩

end Setting

end PlantGrowth
