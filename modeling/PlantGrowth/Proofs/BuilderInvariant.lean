import PlantGrowth.Proofs.SegmentTree

/-!
# What a builder upholds along a walk

A builder is given back the anchors that it has answered with, and only those: the turtle carries
the last one, and the saved turtles of open branches carry older ones.  So a property of the
builder may be kept by `add` only for anchors that it knows, as long as it goes on knowing them,
and still holds whatever the word.
-/

namespace PlantGrowth

variable {α β σ : Type} [Scalar α]

/-- With `n` segments added `Sound n` holds of what is built, and `Known` holds of the anchors that
were answered so far. -/
structure Builder.Upholds (builder : Builder α β) (Sound : Nat → β → Prop)
    (Known : β → Option Anchor → Prop) : Prop where
  sound : ∀ {n b} (s : Segment α) {origin}, Sound n b → Known b origin →
    Sound (n + 1) (builder.add b s origin).1
  answers : ∀ {n b} (s : Segment α) {origin}, Sound n b → Known b origin →
    Known (builder.add b s origin).1 (builder.add b s origin).2
  remembers : ∀ {n b} (s : Segment α) {origin anchor}, Sound n b → Known b origin →
    Known b anchor → Known (builder.add b s origin).1 anchor

structure Walk.Upholds (Sound : Nat → β → Prop) (Known : β → Option Anchor → Prop)
    (w : Walk α β σ) : Prop where
  built : Sound w.segments w.builder
  turtle : Known w.builder w.turtle.anchor
  stack : ∀ t ∈ w.stack, Known w.builder t.anchor

variable {S : Setting α β σ} {Sound : Nat → β → Prop} {Known : β → Option Anchor → Prop}

namespace Visit

theorem after_built_of_forward {v : Visit α β σ} (hforward : v.command = .forward) :
    (v.after S).builder = (v.answer S).1 ∧ (v.after S).segments = v.walk.segments + 1 := by
  rw [after_builder, after_segments]
  simp [call?, hforward, answer]

theorem after_built_of_other {v : Visit α β σ} (hforward : v.command ≠ .forward) :
    (v.after S).builder = v.walk.builder ∧ (v.after S).segments = v.walk.segments := by
  rw [after_builder, after_segments]
  simp [call?, hforward]

theorem after_upholds (hbuilder : S.builder.Upholds Sound Known) {v : Visit α β σ}
    (h : v.walk.Upholds Sound Known) : (v.after S).Upholds Sound Known := by
  by_cases hforward : v.command = .forward
  · obtain ⟨hbuilt, hsegments⟩ := after_built_of_forward (S := S) hforward
    constructor
    · rw [hbuilt, hsegments]
      exact hbuilder.sound _ h.built h.turtle
    · rw [hbuilt, after_anchor_of_forward S v hforward]
      exact hbuilder.answers _ h.built h.turtle
    · intro t ht
      simp only [after_stack, hforward] at ht
      rw [hbuilt]
      exact hbuilder.remembers _ h.built h.turtle (h.stack t ht)
  · obtain ⟨hbuilt, hsegments⟩ := after_built_of_other (S := S) hforward
    constructor
    · rw [hbuilt, hsegments]
      exact h.built
    · rw [hbuilt]
      by_cases hpop : v.command = .pop
      · -- the anchor comes back from the stack, where it was known all the time
        rw [after_turtle_of_pop S v hpop]
        cases hstack : v.walk.stack with
        | nil => exact h.turtle
        | cons saved outer => exact h.stack saved (by simp [hstack])
      · rw [(after_tip_of_other S v hforward hpop).2]
        exact h.turtle
    · intro t ht
      rw [hbuilt]
      cases hcommand : v.command with
      | push =>
          simp only [after_stack, hcommand, List.mem_cons] at ht
          rcases ht with rfl | ht
          · exact h.turtle
          · exact h.stack t ht
      | pop =>
          simp only [after_stack, hcommand] at ht
          exact h.stack t (List.mem_of_mem_tail ht)
      | _ =>
          simp only [after_stack, hcommand] at ht
          exact h.stack t ht

end Visit

namespace Setting

section

variable (hbuilder : S.builder.Upholds Sound Known) (hsound : Sound 0 S.start.builder)
  (hknown : Known S.start.builder S.start.turtle.anchor)

include hsound hknown

theorem upholds_start : S.start.Upholds Sound Known :=
  ⟨hsound, hknown, fun _ ht => nomatch ht⟩

include hbuilder

theorem upholds_of_mem {v : Visit α β σ} (hv : v ∈ S.course) : v.walk.Upholds Sound Known :=
  kept_of_mem (P := fun _ w => w.Upholds Sound Known) (upholds_start hsound hknown)
    (fun _ _ => Visit.after_upholds hbuilder) hv

theorem tour_upholds : S.tour.walk.Upholds Sound Known :=
  kept_tour (P := fun _ w => w.Upholds Sound Known) (upholds_start hsound hknown)
    fun _ _ => Visit.after_upholds hbuilder

end

end Setting

end PlantGrowth
