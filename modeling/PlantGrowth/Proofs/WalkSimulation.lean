import PlantGrowth.Proofs.Course

/-!
# One walk seen in another

Two walks over the same commands are compared through a view of the first one's state as a state
of the second's.  If the view goes along with every command, and the second walk ends only where
the first one does, the visits of the first walk are seen among those of the second, in order and
from the start on.  What is told from the view alone then only grows from the first to the second.
-/

namespace PlantGrowth

variable {α β γ σ : Type} [Scalar α]

/-- The visit with another walk in place of its own. -/
def Visit.map (view : Walk α β σ → Walk α γ σ) (v : Visit α β σ) : Visit α γ σ :=
  ⟨v.index, v.command, v.rest, view v.walk⟩

namespace Setting

/-- The walks of `S`, seen through `view`, are the walks of `S'` as far as they go. -/
structure SeenIn (S : Setting α β σ) (S' : Setting α γ σ)
    (view : Walk α β σ → Walk α γ σ) : Prop where
  step : ∀ v : Visit α β σ, (v.map view).after S' = view (v.after S)
  ends : ∀ v : Visit α β σ, (v.map view).ends S' = true → v.ends S = true

variable {S : Setting α β σ} {S' : Setting α γ σ} {view : Walk α β σ → Walk α γ σ}

theorem SeenIn.courseFrom_isPrefix (hseen : S.SeenIn S' view) (commands : List Command)
    (index : Nat) (w : Walk α β σ) :
    (S.courseFrom index commands w).map (Visit.map view) <+:
      S'.courseFrom index commands (view w) := by
  induction commands generalizing index w with
  | nil => exact List.prefix_refl _
  | cons c rest ih =>
      have hstep := hseen.step ⟨index, c, rest, w⟩
      have hends := hseen.ends ⟨index, c, rest, w⟩
      simp only [Visit.map] at hstep hends
      simp only [courseFrom, List.map_cons, Visit.map, List.prefix_cons_inj]
      cases hlast : Visit.ends S ⟨index, c, rest, w⟩ with
      | true => simp
      | false =>
          have hgoes : Visit.ends S' ⟨index, c, rest, view w⟩ = false := by
            by_contra htrue
            simp [hends (by simpa using htrue)] at hlast
          simp only [hgoes, Bool.false_eq_true, if_false, hstep]
          exact ih (index + 1) _

/-- A walk that skips nothing is seen whole, up to its end. -/
theorem SeenIn.runFrom_eq (hseen : S.SeenIn S' view) (commands : List Command)
    (index : Nat) (w : Walk α β σ)
    (hskipped : (Walk.runFrom S.habit S.builder S.source index commands w).skipped = 0) :
    view (Walk.runFrom S.habit S.builder S.source index commands w).walk =
        (Walk.runFrom S'.habit S'.builder S'.source index commands (view w)).walk ∧
      (S.courseFrom index commands w).map (Visit.map view) =
        S'.courseFrom index commands (view w) := by
  induction commands generalizing index w with
  | nil => exact ⟨rfl, rfl⟩
  | cons c rest ih =>
      have hstep := hseen.step ⟨index, c, rest, w⟩
      have hends := hseen.ends ⟨index, c, rest, w⟩
      simp only [Visit.map] at hstep hends
      rw [runFrom_cons] at hskipped ⊢
      rw [runFrom_cons]
      simp only [courseFrom, List.map_cons, Visit.map] at hskipped ⊢
      cases hlast : Visit.ends S ⟨index, c, rest, w⟩ with
      | true =>
          -- the walk may only end early at the last command
          simp only [hlast, if_true, List.length_eq_zero_iff] at hskipped
          subst rest
          simp [courseFrom, Walk.runFrom, hstep]
      | false =>
          have hgoes : Visit.ends S' ⟨index, c, rest, view w⟩ = false := by
            by_contra htrue
            simp [hends (by simpa using htrue)] at hlast
          simp only [hlast, Bool.false_eq_true, if_false] at hskipped
          obtain ⟨hwalk, hcourse⟩ := ih (index + 1) _ hskipped
          simp only [hgoes, Bool.false_eq_true, if_false, hstep]
          exact ⟨hwalk, by rw [hcourse]⟩

end Setting

end PlantGrowth
