import PlantGrowth.Proofs.OutputConsistency

/-!
# How far a cap is overshot

A walk asks its builder for room after a segment and not before it.  So until its last segment the
builder has had room, or is as the walk began with it, and what is built goes beyond the cap by
what one segment adds at most.  A walk is only cut short by a builder that is full; instances, of
which each segment adds one, therefore come to the cap exactly.
-/

namespace PlantGrowth

variable {α β σ : Type} [Scalar α]

/-- Measured by `size`, the builder is full from `cap` on, and a segment adds `growth` at most. -/
structure Builder.CappedBy (builder : Builder α β) (Sound : Nat → β → Prop)
    (Known : β → Option Anchor → Prop) (size : β → Nat) (cap growth : Nat) : Prop
    extends builder.Upholds Sound Known where
  full_iff : ∀ {n b}, Sound n b → (builder.full b = true ↔ cap ≤ size b)
  add_le : ∀ {n b} (s : Segment α) {origin}, Sound n b → Known b origin →
    size (builder.add b s origin).1 ≤ size b + growth

namespace Setting

variable {S : Setting α β σ}

/-- Before each command the builder has room, or it is what the walk began with. -/
theorem start_or_room {v : Visit α β σ} (hv : v ∈ S.course) :
    v.walk.builder = S.start.builder ∨ S.builder.full v.walk.builder = false := by
  refine visit_induction (P := fun v => v.walk.builder = S.start.builder ∨
    S.builder.full v.walk.builder = false) ?_ ?_ hv
  · intro v _ _ hwalk
    exact Or.inl (by rw [hwalk])
  · intro u hu v hv hindex _ ih
    obtain ⟨u', hu', hindex', hgoes, hwalk⟩ := exists_visit_before hv hindex
    obtain rfl := visit_unique hu' hu hindex'
    rw [hwalk]
    by_cases hforward : u'.command = .forward
    · right
      rw [(Visit.after_built_of_forward hforward).1]
      by_contra hfull
      rw [Bool.not_eq_false] at hfull
      rw [ends_eq_true_iff.mpr ⟨hforward, hfull⟩] at hgoes
      contradiction
    · rw [(Visit.after_built_of_other hforward).1]
      exact ih u' hu' (le_refl _)

/-- A walk that is cut short has drawn a segment, and has filled its builder. -/
theorem full_of_stoppedEarly (hearly : S.tour.stoppedEarly = true) :
    S.builder.full S.tour.walk.builder = true ∧ 0 < S.tour.walk.segments := by
  have hskipped : S.tour.skipped ≠ 0 := by
    simpa [Tour.stoppedEarly, Nat.pos_iff_ne_zero] using hearly
  obtain ⟨u, hu, hends⟩ := exists_ends_of_skipped hskipped
  rcases S.tour_walk_eq with ⟨hnone, _⟩ | ⟨v, hv, hindex, hwalk⟩
  · rw [hnone] at hu
    exact absurd hu List.not_mem_nil
  · have hlast := length_course_of_ends hu hends
    obtain rfl := visit_unique hu hv (by omega)
    obtain ⟨hforward, hfull⟩ := ends_eq_true_iff.mp hends
    obtain ⟨hbuilt, hsegments⟩ := Visit.after_built_of_forward (S := S) hforward
    rw [hwalk, hbuilt, hsegments]
    exact ⟨hfull, Nat.succ_pos _⟩

/-- A walk that is not cut short obeys all commands. -/
theorem take_course_of_read (hread : S.tour.stoppedEarly = false) :
    S.commands.take S.course.length = S.commands := by
  have hnot := stoppedEarly_iff_length_course.not.mp (Bool.eq_false_iff.mp hread)
  exact List.take_of_length_le (Nat.le_of_not_lt hnot)

theorem map_command_course (hread : S.tour.stoppedEarly = false) :
    S.course.map Visit.command = S.commands := by
  rw [← take_course_of_read hread]
  exact map_command_courseFrom S.commands 0 S.start

theorem tour_segments_le :
    S.tour.walk.segments ≤ S.commands.countP fun c => c = .forward := by
  rw [tour_segments_eq_countP]
  exact (List.take_sublist _ _).countP_le

section

variable {Sound : Nat → β → Prop} {Known : β → Option Anchor → Prop} {size : β → Nat}
  {cap growth : Nat} (hcapped : S.builder.CappedBy Sound Known size cap growth)
  (hsound : Sound 0 S.start.builder) (hknown : Known S.start.builder S.start.turtle.anchor)

include hcapped hsound hknown

theorem size_visit_le {v : Visit α β σ} (hv : v ∈ S.course) :
    size v.walk.builder ≤ max (cap - 1) (size S.start.builder) := by
  rcases start_or_room hv with hstart | hfree
  · rw [hstart]
    exact le_max_right _ _
  · have hbuilt := (upholds_of_mem hcapped.toUpholds hsound hknown hv).built
    rw [← Bool.not_eq_true, hcapped.full_iff hbuilt] at hfree
    omega

/-- What is built is beyond the cap, less one, or beyond what the walk began with, by what a
segment adds at most. -/
theorem size_tour_le :
    size S.tour.walk.builder ≤ max (cap - 1) (size S.start.builder) + growth := by
  rcases S.tour_walk_eq with ⟨_, hwalk⟩ | ⟨v, hv, _, hwalk⟩
  · rw [hwalk]
    omega
  · have hbefore := size_visit_le hcapped hsound hknown hv
    have hupholds := upholds_of_mem hcapped.toUpholds hsound hknown hv
    rw [hwalk]
    by_cases hforward : v.command = .forward
    · rw [(Visit.after_built_of_forward hforward).1]
      have hadded := hcapped.add_le (v.segment S) hupholds.built hupholds.turtle
      exact hadded.trans (Nat.add_le_add_right hbefore growth)
    · rw [(Visit.after_built_of_other hforward).1]
      exact hbefore.trans (Nat.le_add_right _ growth)

theorem cap_le_of_stoppedEarly (hearly : S.tour.stoppedEarly = true) :
    cap ≤ size S.tour.walk.builder :=
  (hcapped.full_iff (tour_upholds hcapped.toUpholds hsound hknown).built).mp
    (full_of_stoppedEarly hearly).1

end

end Setting

/-! ## Instances -/

namespace InstanceBuilder

/-- A builder of that cap with `n` instances. -/
def Holds (cap n : Nat) (b : InstanceBuilder α) : Prop :=
  b.maxSegments = cap ∧ b.instances.count = n

theorem count_add (b : InstanceBuilder α) (s : Segment α) :
    (b.add s).instances.count = b.instances.count + 1 :=
  Array.size_push _

theorem list_foldl_add (segments : List (Segment α)) (b : InstanceBuilder α) :
    (segments.foldl add b).instances.list.toList =
      b.instances.list.toList ++ segments.map BranchInstance.ofSegment := by
  induction segments generalizing b with
  | nil => simp
  | cons s segments ih =>
      rw [List.foldl_cons, ih]
      simp [add]

theorem cappedBy (cap : Nat) :
    (Builder.instances (α := α)).CappedBy (Holds cap) (fun _ _ => True)
      (fun b => b.instances.count) cap 1 where
  sound := by
    intro n b s origin h _
    exact ⟨h.1, (b.count_add s).trans (congrArg (· + 1) h.2)⟩
  answers := fun _ _ _ _ => trivial
  remembers := fun _ _ _ _ _ _ => trivial
  full_iff := by
    intro n b h
    rw [← h.1]
    exact decide_eq_true_iff
  add_le := fun s _ _ _ => (count_add _ s).le

end InstanceBuilder

/-- The walk makes its segments into instances, up to a cap. -/
structure Setting.MakesInstances (S : Setting α (InstanceBuilder α) σ) (cap : Nat) : Prop where
  builder : S.builder = Builder.instances
  built : ∃ shape, S.built = InstanceBuilder.empty shape cap

namespace Setting.MakesInstances

variable {S : Setting α (InstanceBuilder α) σ} {cap : Nat} (h : S.MakesInstances cap)

include h

theorem start_builder : ∃ shape, S.start.builder = InstanceBuilder.empty shape cap := by
  obtain ⟨shape, hbuilt⟩ := h.built
  exact ⟨shape, by simp [start, Walk.begin, h.builder, hbuilt, Builder.instances]⟩

theorem holds_start : InstanceBuilder.Holds cap 0 S.start.builder := by
  obtain ⟨shape, hstart⟩ := h.start_builder
  rw [hstart]
  exact ⟨rfl, rfl⟩

theorem cappedBy : S.builder.CappedBy (InstanceBuilder.Holds cap) (fun _ _ => True)
    (fun b => b.instances.count) cap 1 :=
  h.builder ▸ InstanceBuilder.cappedBy cap

/-- Each segment is made into one instance. -/
theorem list_eq :
    S.tour.walk.builder.instances.list.toList = S.segments.map BranchInstance.ofSegment := by
  obtain ⟨shape, hstart⟩ := h.start_builder
  have hfold : S.tour.walk.builder = S.segments.foldl InstanceBuilder.add S.start.builder := by
    rw [tour_builder, h.builder, segments, List.foldl_map]
    rfl
  rw [hfold, InstanceBuilder.list_foldl_add, hstart]
  rfl

/-- Instances come to the cap exactly if there are segments enough, but a cap of none lets one
through. -/
theorem count_eq :
    S.tour.walk.builder.instances.count =
      min (S.commands.countP fun c => c = .forward) (max cap 1) := by
  have hle := size_tour_le h.cappedBy h.holds_start trivial
  have hcount := (tour_upholds h.cappedBy.toUpholds h.holds_start trivial).built.2
  rw [h.holds_start.2] at hle
  cases hearly : S.tour.stoppedEarly with
  | false =>
      have hall := tour_segments_eq_countP (S := S)
      rw [take_course_of_read hearly] at hall
      omega
  | true =>
      have hfew := tour_segments_le (S := S)
      have hpositive := (full_of_stoppedEarly hearly).2
      have hfilled := cap_le_of_stoppedEarly h.cappedBy h.holds_start trivial hearly
      omega

end Setting.MakesInstances

/-! ## Tubes -/

namespace TubeBuilder

/-- A tube with `n` segments that is to have `cap` vertices at most. -/
def Capped (radial cap n : Nat) (t : TubeBuilder α) : Prop :=
  t.Sound radial n ∧ t.maxVertices = cap

variable {t : TubeBuilder α} {radial cap n : Nat} {ring : Anchor}

theorem maxVertices_add (hring : ring < t.frames.size) (s : Segment α) :
    (t.add s (some ring)).1.maxVertices = t.maxVertices := by
  rcases add_of_known hring s with ⟨frame, hadd⟩ | ⟨turned, frame, hadd⟩
  · rw [hadd, grow_maxVertices]
  · rw [hadd, grow_maxVertices, growPivot_maxVertices]

/-- A segment adds two rings at most, a pivot and its end. -/
theorem vertexCount_add_le (hring : ring < t.frames.size) (s : Segment α) :
    (t.add s (some ring)).1.mesh.vertexCount ≤ t.mesh.vertexCount + 2 * t.mesh.radial := by
  rcases add_of_known hring s with ⟨frame, hadd⟩ | ⟨turned, frame, hadd⟩
  · simp only [hadd, grow_vertexCount]
    omega
  · simp only [hadd, grow_vertexCount, growPivot_vertexCount, growPivot_radial]
    omega

theorem cappedBy (radial cap : Nat) :
    (Builder.tube (α := α)).CappedBy (Capped radial cap) Knows
      (fun t => t.mesh.vertexCount) cap (2 * radial) where
  sound := by
    rintro n t s origin ⟨h, hcap⟩ ⟨ring, rfl, hring⟩
    exact ⟨sound_add h hring s, (maxVertices_add hring s).trans hcap⟩
  answers := fun s _ h hknown => (upholds radial).answers s h.1 hknown
  remembers := fun s _ _ h hknown hknown' => (upholds radial).remembers s h.1 hknown hknown'
  full_iff := by
    intro n t h
    rw [← h.2]
    exact decide_eq_true_iff
  add_le := by
    rintro n t s origin ⟨h, _⟩ ⟨ring, rfl, hring⟩
    rw [← h.radial_eq]
    exact vertexCount_add_le hring s

theorem vertexCount_begin (radial cap : Nat) (turtle : Turtle α) :
    ((empty radial cap).begin turtle).1.mesh.vertexCount = max radial 3 := by
  simp [begin, pushRing, empty, TubeMesh.vertexCount, length_ringPoints]

end TubeBuilder

/-- The walk makes its segments into a tube, up to a cap on its vertices. -/
structure Setting.MakesTube (S : Setting α (TubeBuilder α) σ) (radial cap : Nat) : Prop where
  builder : S.builder = Builder.tube
  built : S.built = TubeBuilder.empty radial cap

namespace Setting.MakesTube

variable {S : Setting α (TubeBuilder α) σ} {radial cap : Nat} (h : S.MakesTube radial cap)

include h

theorem start_eq : ∃ turtle,
    S.start.builder = ((TubeBuilder.empty radial cap).begin turtle).1 ∧
      S.start.turtle.anchor = some ((TubeBuilder.empty radial cap).begin turtle).2 :=
  ⟨Turtle.atOrigin S.habit.stepLength S.habit.baseWidth,
    by simp [start, Walk.begin, h.builder, h.built, Builder.tube],
    by simp [start, Walk.begin, h.builder, h.built, Builder.tube]⟩

theorem capped_start : S.start.builder.Capped (max radial 3) cap 0 := by
  obtain ⟨turtle, hstart, _⟩ := h.start_eq
  rw [hstart]
  exact ⟨TubeBuilder.sound_begin cap turtle, rfl⟩

theorem knows_start : S.start.builder.Knows S.start.turtle.anchor := by
  obtain ⟨turtle, hstart, hanchor⟩ := h.start_eq
  rw [hstart, hanchor]
  exact TubeBuilder.knows_begin radial cap turtle

theorem cappedBy : S.builder.CappedBy (TubeBuilder.Capped (max radial 3) cap) TubeBuilder.Knows
    (fun t => t.mesh.vertexCount) cap (2 * max radial 3) :=
  h.builder ▸ TubeBuilder.cappedBy (max radial 3) cap

theorem vertexCount_le :
    S.tour.walk.builder.mesh.vertexCount ≤ max (cap - 1) (max radial 3) + 2 * max radial 3 := by
  obtain ⟨turtle, hstart, _⟩ := h.start_eq
  have hbound := size_tour_le h.cappedBy h.capped_start h.knows_start
  rwa [hstart, TubeBuilder.vertexCount_begin] at hbound

theorem cap_le_of_stoppedEarly (hearly : S.tour.stoppedEarly = true) :
    cap ≤ S.tour.walk.builder.mesh.vertexCount :=
  Setting.cap_le_of_stoppedEarly h.cappedBy h.capped_start h.knows_start hearly

end Setting.MakesTube

/-! ## Both kinds -/

/-- Whatever the word, instances come to their cap and no further, one apart, and a tube goes beyond
its cap by two rings at most.  Neither walk leaves anything unread before its cap is reached. -/
theorem Setting.caps_overshot_by_one_segment (habit : Habit α) (source : Source α σ) (word : Word)
    (s : σ) :
    (∀ (shape : Shape) (cap : Nat),
      let S : Setting α (InstanceBuilder α) σ :=
        ⟨habit, .instances, source, Command.ofWord word, .empty shape cap, s⟩
      S.tour.walk.builder.instances.count =
          min (word.countP Command.isForwardSymbol) (max cap 1) ∧
        S.tour.walk.builder.instances.list.toList = S.segments.map (fun s =>
          { center := (s.start + s.stop).scale Scalar.half
            orientation := s.orientation
            scale := ⟨s.width, s.length, s.width⟩
            startHeight := s.start.y
            decay := s.decay }) ∧
        (S.tour.stoppedEarly = true → cap ≤ S.tour.walk.builder.instances.count)) ∧
    ∀ radial cap : Nat,
      let S : Setting α (TubeBuilder α) σ :=
        ⟨habit, .tube, source, Command.ofWord word, .empty radial cap, s⟩
      let n := max radial 3
      S.tour.walk.builder.mesh.vertexCount ≤ max (cap - 1) n + 2 * n ∧
        (S.tour.walk.builder.mesh.vertexCount < cap →
          S.course.map Visit.command = Command.ofWord word) ∧
        (S.tour.stoppedEarly = true → cap ≤ S.tour.walk.builder.mesh.vertexCount) := by
  constructor
  · intro shape cap S
    have hmakes : S.MakesInstances cap := ⟨rfl, shape, rfl⟩
    refine ⟨?_, hmakes.list_eq, ?_⟩
    · rw [hmakes.count_eq]
      exact congrArg (min · _) (Command.countP_ofWord word)
    · exact Setting.cap_le_of_stoppedEarly hmakes.cappedBy hmakes.holds_start trivial
  · intro radial cap S n
    have hmakes : S.MakesTube radial cap := ⟨rfl, rfl⟩
    refine ⟨hmakes.vertexCount_le, ?_, hmakes.cap_le_of_stoppedEarly⟩
    intro hroom
    apply map_command_course
    by_contra hearly
    rw [Bool.not_eq_false] at hearly
    exact absurd (hmakes.cap_le_of_stoppedEarly hearly) (Nat.not_le_of_lt hroom)

end PlantGrowth
