import PlantGrowth.Proofs.Meaning

/-!
# Walks side by side

Two walks over the same commands are led through them together, by a relation that every command
keeps and under which neither ends without the other.  What is told alike from related visits is
then told alike from the two courses.

The first use is what chance can do.  A walk feels its samples in the angles it turns by and in the
twist of its leaves, and leaves do nothing to the walk.  So two walks that turn by the same angles
have the same frame: they differ at most in their leaves and in what chance is left.
-/

namespace PlantGrowth

variable {α β γ σ τ : Type}

/-- The same command, met by another walk. -/
def Visit.withWalk (v : Visit α β σ) (w : Walk α γ τ) : Visit α γ τ :=
  ⟨v.index, v.command, v.rest, w⟩

namespace Setting

variable [Scalar α]

structure Parallel (S : Setting α β σ) (S' : Setting α γ τ)
    (R : Walk α β σ → Walk α γ τ → Prop) : Prop where
  commands : S'.commands = S.commands
  start : R S.start S'.start
  step : ∀ (v : Visit α β σ) {w' : Walk α γ τ}, R v.walk w' →
    (v.withWalk w').ends S' = v.ends S ∧ R (v.after S) ((v.withWalk w').after S')

namespace Parallel

variable {S : Setting α β σ} {S' : Setting α γ τ} {R : Walk α β σ → Walk α γ τ → Prop}

theorem runFrom (h : S.Parallel S' R) (commands : List Command) (index : Nat)
    {w : Walk α β σ} {w' : Walk α γ τ} (hwalk : R w w') :
    List.Forall₂ (fun v v' => ∃ w', v' = v.withWalk w' ∧ R v.walk w')
        (S.courseFrom index commands w) (S'.courseFrom index commands w') ∧
      (Walk.runFrom S'.habit S'.builder S'.source index commands w').skipped =
        (Walk.runFrom S.habit S.builder S.source index commands w).skipped ∧
      R (Walk.runFrom S.habit S.builder S.source index commands w).walk
        (Walk.runFrom S'.habit S'.builder S'.source index commands w').walk := by
  induction commands generalizing index w w' with
  | nil => exact ⟨.nil, rfl, hwalk⟩
  | cons c rest ih =>
      obtain ⟨hends, hafter⟩ := h.step ⟨index, c, rest, w⟩ hwalk
      simp only [Visit.withWalk] at hends hafter
      rw [courseFrom_cons, courseFrom_cons, runFrom_cons, runFrom_cons]
      simp only [hends]
      -- neither walk ends without the other, so one split serves both
      cases hlast : Visit.ends S ⟨index, c, rest, w⟩ with
      | true => exact ⟨.cons ⟨w', rfl, hwalk⟩ .nil, rfl, hafter⟩
      | false =>
          obtain ⟨hcourse, htour⟩ := ih (index + 1) hafter
          exact ⟨.cons ⟨w', rfl, hwalk⟩ hcourse, htour⟩

theorem course (h : S.Parallel S' R) :
    List.Forall₂ (fun v v' => ∃ w', v' = v.withWalk w' ∧ R v.walk w') S.course S'.course := by
  unfold Setting.course
  rw [h.commands]
  exact (h.runFrom S.commands 0 h.start).1

theorem tour (h : S.Parallel S' R) :
    S'.tour.skipped = S.tour.skipped ∧ R S.tour.walk S'.tour.walk := by
  unfold Setting.tour Walk.run
  rw [h.commands]
  exact (h.runFrom S.commands 0 h.start).2

theorem filterMap_course (h : S.Parallel S' R) {δ : Type} {part : Visit α β σ → Option δ}
    {part' : Visit α γ τ → Option δ}
    (hpart : ∀ (v : Visit α β σ) {w' : Walk α γ τ}, R v.walk w' →
      part' (v.withWalk w') = part v) :
    S'.course.filterMap part' = S.course.filterMap part := by
  refine filterMap_eq_of_forall₂ h.course ?_
  rintro v _ ⟨w', rfl, hwalk⟩
  exact hpart v hwalk

end Parallel

end Setting

/-! ## The frame of a plant -/

/-- The walks agree on all but their leaves and what chance is left. -/
structure Walk.SameFrame (w : Walk α β σ) (w' : Walk α β τ) : Prop where
  turtle : w'.turtle = w.turtle
  stack : w'.stack = w.stack
  builder : w'.builder = w.builder
  extent : w'.extent = w.extent
  segments : w'.segments = w.segments
  maxDepth : w'.maxDepth = w.maxDepth

def Setting.withChance (S : Setting α β σ) (source : Source α τ) (chance : τ) : Setting α β τ :=
  ⟨S.habit, S.builder, source, S.commands, S.built, chance⟩

variable [Scalar α]

/-- The two settings may differ in where leaves are allowed and in their sources of chance, but
whatever samples they draw, they turn by the same angles. -/
structure Setting.SameTurns (S : Setting α β σ) (S' : Setting α β τ) : Prop where
  commands : S'.commands = S.commands
  builder : S'.builder = S.builder
  built : S'.built = S.built
  habit : ∃ tipsOnly, S'.habit = { S.habit with tipsOnly }
  angle : ∀ s s', jittered S'.habit.angle S'.habit.variance (S'.source.next s').1 =
    jittered S.habit.angle S.habit.variance (S.source.next s).1

variable {S : Setting α β σ} {S' : Setting α β τ}

namespace Visit

variable (h : S.SameTurns S') (v : Visit α β σ) {w' : Walk α β τ} (hwalk : v.walk.SameFrame w')

include h hwalk

theorem withWalk_taperRun : (v.withWalk w').taperRun S' = v.taperRun S := by
  obtain ⟨_, hhabit⟩ := h.habit
  simp only [taperRun, withWalk, ahead, hwalk.turtle, hhabit]

theorem withWalk_segment : (v.withWalk w').segment S' = v.segment S := by
  rw [segment, segment, withWalk_taperRun h v hwalk]
  simp only [withWalk, hwalk.turtle]

theorem withWalk_answer : (v.withWalk w').answer S' = v.answer S := by
  rw [answer, answer, withWalk_segment h v hwalk, h.builder]
  simp only [withWalk, origin, hwalk.turtle, hwalk.builder]

theorem withWalk_call? : (v.withWalk w').call? S' = v.call? S := by
  rw [call?, call?, withWalk_segment h v hwalk]
  simp only [withWalk, origin, hwalk.turtle]

theorem withWalk_ends : (v.withWalk w').ends S' = v.ends S := by
  rw [Bool.eq_iff_iff, Setting.ends_eq_true_iff, Setting.ends_eq_true_iff,
    withWalk_answer h v hwalk, h.builder]
  rfl

theorem withWalk_after_turtle : ((v.withWalk w').after S').turtle = (v.after S).turtle := by
  obtain ⟨_, hhabit⟩ := h.habit
  have hangle := h.angle v.walk.source w'.source
  rw [after_turtle, after_turtle, withWalk_segment h v hwalk, withWalk_taperRun h v hwalk,
    withWalk_answer h v hwalk]
  simp only [withWalk, hwalk.turtle, hwalk.stack, hangle]
  simp only [hhabit]

theorem withWalk_after_sameFrame : (v.after S).SameFrame ((v.withWalk w').after S') where
  turtle := withWalk_after_turtle h v hwalk
  stack := by
    rw [after_stack, after_stack]
    simp only [withWalk, hwalk.turtle, hwalk.stack]
  builder := by
    rw [after_builder, after_builder, withWalk_call? h v hwalk, h.builder]
    simp only [withWalk, hwalk.builder]
  extent := by
    rw [after_extent, after_extent, withWalk_call? h v hwalk]
    simp only [withWalk, hwalk.extent]
  segments := by
    rw [after_segments, after_segments, withWalk_call? h v hwalk]
    simp only [withWalk, hwalk.segments]
  maxDepth := by
    rw [after_maxDepth, after_maxDepth]
    simp only [withWalk, depth?, hwalk.stack, hwalk.maxDepth]

end Visit

namespace Setting

/-- The two plants are the same but for their leaves. -/
structure SameFrame (S : Setting α β σ) (S' : Setting α β τ) : Prop where
  calls : S'.calls = S.calls
  tour : S.tour.walk.SameFrame S'.tour.walk
  skipped : S'.tour.skipped = S.tour.skipped

theorem SameTurns.start (h : S.SameTurns S') : S.start.SameFrame S'.start := by
  obtain ⟨_, hhabit⟩ := h.habit
  constructor <;> simp only [Setting.start, Walk.begin, h.builder, h.built, hhabit]

theorem SameTurns.parallel (h : S.SameTurns S') : S.Parallel S' Walk.SameFrame where
  commands := h.commands
  start := h.start
  step := fun v _ hwalk =>
    ⟨Visit.withWalk_ends h v hwalk, Visit.withWalk_after_sameFrame h v hwalk⟩

theorem SameTurns.sameFrame (h : S.SameTurns S') : S.SameFrame S' where
  calls := h.parallel.filterMap_course fun v _ hwalk => Visit.withWalk_call? h v hwalk
  tour := h.parallel.tour.2
  skipped := h.parallel.tour.1

end Setting

/-! ## Leaves and where they stand -/

theorem Visit.leaf?_eq (S : Setting α β σ) (v : Visit α β σ) :
    v.leaf? S =
      if v.command = .leaf ∧ leafAllowed S.habit.tipsOnly v.rest = true then
        let first := S.source.next v.walk.source
        some (LeafTransform.twisted S.habit.stepLength v.walk.turtle.position
          v.walk.turtle.orientation first.1 (S.source.next first.2).1)
      else none := by
  unfold leaf? placeLeaf?
  by_cases hcommand : v.command = .leaf
  · by_cases hallowed : leafAllowed S.habit.tipsOnly v.rest = true
    · simp [hcommand, hallowed]
    · simp [hcommand, hallowed]
  · simp [hcommand]

theorem Visit.leaf?_isSome (S : Setting α β σ) (v : Visit α β σ) :
    (v.leaf? S).isSome = (v.command == .leaf && leafAllowed S.habit.tipsOnly v.rest) := by
  rw [leaf?_eq, Bool.eq_iff_iff, Option.isSome_ite, Bool.and_eq_true, beq_iff_eq]

def Visit.placedLeaf? (S : Setting α β σ) (v : Visit α β σ) : Option (Nat × LeafTransform α) :=
  (v.leaf? S).map fun leaf => (v.index, leaf)

namespace Setting

/-- The leaves in the order they are placed, with the positions of their symbols. -/
def placedLeaves (S : Setting α β σ) : List (Nat × LeafTransform α) :=
  S.course.filterMap (Visit.placedLeaf? S)

theorem leaves_eq_map_placedLeaves (S : Setting α β σ) :
    S.leaves = S.placedLeaves.map Prod.snd := by
  rw [leaves, placedLeaves, List.map_filterMap]
  apply List.filterMap_congr
  intro v _
  simp [Visit.placedLeaf?]

theorem tour_foliage_eq_placedLeaves (S : Setting α β σ) :
    S.tour.walk.foliage =
      (S.placedLeaves.map Prod.snd).foldl Foliage.push (Foliage.empty S.habit.leafScale) := by
  rw [tour_foliage, leaves_eq_map_placedLeaves]

end Setting

end PlantGrowth
