import PlantGrowth.Proofs.WalkSimulation
import Mathlib.Data.List.Infix

/-!
# What the builder has no say in

A builder answers with anchors and may end the walk.  The anchors are carried along by the turtle
and saved on the stack, but they reach nothing except the builder again.  The skeleton of a walk is
what is left without them: it is itself a walk, with a builder that never answers and is never
full, and every walk is seen in it.  So two walks over the same commands draw the same segments,
place the same leaves and draw the same samples, as far as both of them go.
-/

namespace PlantGrowth

variable {α β γ σ : Type} [Scalar α]

def Turtle.bare (t : Turtle α) : Turtle α := { t with anchor := none }

/-- A builder that keeps nothing, gives no anchors and is never full. -/
def Builder.silent : Builder α Unit where
  begin _ _ := ((), none)
  add _ _ _ := ((), none)
  full _ := false

/-- The walk without anything that its builder has given. -/
def Walk.skeleton (w : Walk α β σ) : Walk α Unit σ :=
  { turtle := w.turtle.bare
    stack := w.stack.map Turtle.bare
    builder := ()
    source := w.source
    foliage := w.foliage
    extent := w.extent
    segments := w.segments
    maxDepth := w.maxDepth }

namespace Setting

def skeleton (S : Setting α β σ) : Setting α Unit σ :=
  ⟨S.habit, Builder.silent, S.source, S.commands, (), S.chance⟩

end Setting

namespace Visit

variable (S : Setting α β σ) (v : Visit α β σ)

theorem after_skeleton : (v.map Walk.skeleton).after S.skeleton = (v.after S).skeleton := by
  cases hcommand : v.command with
  | pop =>
      cases hstack : v.walk.stack <;>
        simp [after, map, hcommand, Walk.step, Walk.pop_eq, Walk.skeleton, Turtle.bare, hstack]
  | taperMark =>
      simp only [after, map, hcommand, Walk.step, Walk.mark_eq, Walk.skeleton, Turtle.bare]
      rfl
  | _ =>
      simp [after, map, hcommand, Walk.step, Walk.sprout_eq, Walk.draw, Walk.turn,
        Walk.turnAround, Walk.push, Walk.skeleton, Walk.segment, Turtle.bare, Turtle.rotate,
        Turtle.heading, Setting.skeleton, Builder.silent]

end Visit

namespace Setting

theorem seenIn_skeleton (S : Setting α β σ) : S.SeenIn S.skeleton Walk.skeleton where
  step := Visit.after_skeleton S
  ends := by
    intro v hends
    simp [Visit.ends, Walk.ends, skeleton, Builder.silent] at hends

theorem course_skeleton_isPrefix (S : Setting α β σ) :
    S.course.map (Visit.map Walk.skeleton) <+: S.skeleton.course :=
  S.seenIn_skeleton.courseFrom_isPrefix S.commands 0 S.start

variable {S : Setting α β σ}

/-- A walk that skips nothing visits all that its skeleton visits. -/
theorem course_skeleton_eq (hskipped : S.tour.skipped = 0) :
    S.course.map (Visit.map Walk.skeleton) = S.skeleton.course :=
  (S.seenIn_skeleton.runFrom_eq S.commands 0 S.start hskipped).2

theorem tour_skeleton_eq (hskipped : S.tour.skipped = 0) :
    S.tour.walk.skeleton = S.skeleton.tour.walk :=
  (S.seenIn_skeleton.runFrom_eq S.commands 0 S.start hskipped).1

theorem skipped_eq_zero_of_never_full (hfree : ∀ b, S.builder.full b = false) :
    S.tour.skipped = 0 := by
  by_contra hskipped
  obtain ⟨v, _, hends⟩ := exists_ends_of_skipped hskipped
  have hfull := (ends_eq_true_iff.mp hends).2
  rw [hfree] at hfull
  contradiction

theorem map_skeleton_eq_take (S : Setting α β σ) :
    S.course.map (Visit.map Walk.skeleton) = S.skeleton.course.take S.course.length := by
  have htake := List.prefix_iff_eq_take.mp S.course_skeleton_isPrefix
  rwa [List.length_map] at htake

/-! ## What is read off the visits -/

theorem segments_eq_skeleton (S : Setting α β σ) :
    S.segments =
      ((S.course.map (Visit.map Walk.skeleton)).filter fun v => v.command = .forward).map
        (Visit.segment S.skeleton) := by
  rw [segments_eq_map_draws, draws, List.filter_map, List.map_map]
  rfl

theorem leaves_eq_skeleton (S : Setting α β σ) :
    S.leaves =
      (S.course.map (Visit.map Walk.skeleton)).filterMap (Visit.leaf? S.skeleton) := by
  rw [leaves, List.filterMap_map]
  rfl

theorem samples_eq_skeleton (S : Setting α β σ) :
    S.samples =
      (S.course.map (Visit.map Walk.skeleton)).flatMap (Visit.samples S.skeleton) := by
  rw [samples, List.flatMap_map]
  rfl

theorem segments_prefix_skeleton (S : Setting α β σ) :
    S.segments <+: S.skeleton.segments := by
  rw [segments_eq_skeleton, segments_eq_map_draws, draws]
  exact (S.course_skeleton_isPrefix.filter _).map _

theorem samples_prefix_skeleton (S : Setting α β σ) : S.samples <+: S.skeleton.samples := by
  rw [samples_eq_skeleton]
  exact List.IsPrefix.flatMap S.course_skeleton_isPrefix _

theorem segments_eq_skeleton_of_skipped (hskipped : S.tour.skipped = 0) :
    S.segments = S.skeleton.segments := by
  rw [segments_eq_skeleton, course_skeleton_eq hskipped, segments_eq_map_draws, draws]

theorem leaves_eq_skeleton_of_skipped (hskipped : S.tour.skipped = 0) :
    S.leaves = S.skeleton.leaves := by
  rw [leaves_eq_skeleton, course_skeleton_eq hskipped, leaves]

theorem samples_eq_skeleton_of_skipped (hskipped : S.tour.skipped = 0) :
    S.samples = S.skeleton.samples := by
  rw [samples_eq_skeleton, course_skeleton_eq hskipped, samples]

/-! ## Where a walk is cut short -/

/-- The number of the first segment behind which the builder is full, counted from one. -/
def firstFull? (S : Setting α β σ) : Option Nat :=
  (S.draws.findIdx? fun v => S.builder.full (v.answer S).1).map (· + 1)

theorem skipped_eq_zero_of_firstFull?_eq_none (hnone : S.firstFull? = none) :
    S.tour.skipped = 0 := by
  by_contra hskipped
  obtain ⟨v, hv, hends⟩ := exists_ends_of_skipped hskipped
  obtain ⟨hcommand, hfull⟩ := ends_eq_true_iff.mp hends
  rw [firstFull?, Option.map_eq_none_iff, List.findIdx?_eq_none_iff] at hnone
  have hroom := hnone v (List.mem_filter.mpr ⟨hv, by simpa using hcommand⟩)
  rw [hfull] at hroom
  contradiction

theorem length_segments_of_firstFull? {k : Nat} (hfirst : S.firstFull? = some k) :
    S.segments.length = k := by
  obtain ⟨n, hfind, rfl⟩ := Option.map_eq_some_iff.mp hfirst
  obtain ⟨hn, hfull, _⟩ := List.findIdx?_eq_some_iff_getElem.mp hfind
  rw [segments_eq_map_draws, List.length_map]
  by_contra hne
  have hnext : n + 1 < S.draws.length := by omega
  obtain ⟨hmem, hcommand⟩ := List.mem_filter.mp (List.getElem_mem hn)
  obtain ⟨hmemNext, _⟩ := List.mem_filter.mp (List.getElem_mem hnext)
  have hends : S.draws[n].ends S = true :=
    ends_eq_true_iff.mpr ⟨by simpa using hcommand, by simpa using hfull⟩
  have hle := index_le_of_ends hmem hends hmemNext
  have hlt := List.pairwise_iff_getElem.mp
    (course_pairwise_index (S := S).filter _) n (n + 1) hn hnext (Nat.lt_succ_self n)
  exact absurd hlt (Nat.not_lt.mpr hle)

theorem stoppedEarly_iff :
    S.tour.stoppedEarly = true ↔
      ∃ v ∈ S.course, v.command = .forward ∧ S.builder.full (v.answer S).1 = true ∧
        v.rest ≠ [] := by
  have hskipped : S.tour.stoppedEarly = true ↔ S.tour.skipped ≠ 0 := by
    simp [Tour.stoppedEarly, Nat.pos_iff_ne_zero]
  rw [hskipped]
  constructor
  · intro hne
    obtain ⟨v, hv, hends⟩ := exists_ends_of_skipped hne
    obtain ⟨hcommand, hfull⟩ := ends_eq_true_iff.mp hends
    refine ⟨v, hv, hcommand, hfull, ?_⟩
    rintro hrest
    exact hne (by rw [skipped_of_ends hv hends, hrest, List.length_nil])
  · rintro ⟨v, hv, hcommand, hfull, hrest⟩
    rw [skipped_of_ends hv (ends_eq_true_iff.mpr ⟨hcommand, hfull⟩)]
    simpa using hrest

/-- The leaves of a walk that a segment has ended are those of its skeleton before that segment. -/
theorem leaves_of_ends {v : Visit α β σ} (hv : v ∈ S.course) (hends : v.ends S = true) :
    S.leaves = (S.skeleton.course.take v.index).filterMap (Visit.leaf? S.skeleton) := by
  have hplace := course_getElem?_index hv
  have hlength := length_course_of_ends hv hends
  have hsplit : S.course = S.course.take v.index ++ [v] := by
    have htake := List.take_add_one (l := S.course) (i := v.index)
    rwa [hplace, ← hlength, List.take_length] at htake
  have hnone : v.leaf? S = none := by
    simp [Visit.leaf?, (ends_eq_true_iff.mp hends).1]
  have hbegins : (S.course.take v.index).map (Visit.map Walk.skeleton) =
      S.skeleton.course.take v.index := by
    rw [List.map_take, map_skeleton_eq_take, List.take_take, hlength]
    simp
  rw [leaves, hsplit, List.filterMap_append, ← hbegins, List.filterMap_map]
  simp only [List.filterMap_cons, hnone, List.filterMap_nil, List.append_nil]
  rfl

end Setting

end PlantGrowth
