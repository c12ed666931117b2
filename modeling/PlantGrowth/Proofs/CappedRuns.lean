import PlantGrowth.Proofs.BuilderIndependence
import PlantGrowth.Proofs.CapRaising
import Mathlib.Tactic.IntervalCases

/-!
# Capped runs

A walk whose builder is never full shows the whole plant.  Any other walk over the same commands
is that walk cut short behind the first segment that fills its builder; what the builder answers
on the way makes no difference.  So a raised cap only adds to a plant, and the two kinds of
geometry agree on everything but themselves as long as no cap is reached.
-/

namespace PlantGrowth

variable {α β γ σ : Type} [Scalar α]

namespace Setting

/-- The walk of `run` is the walk of `reference` up to the first segment that fills the builder. -/
structure CutShort (reference : Setting α γ σ) (run : Setting α β σ) : Prop where
  builder :
    run.tour.walk.builder =
      run.calls.foldl (fun b call => (run.builder.add b call.1 call.2).1) run.start.builder
  segments :
    run.segments =
      reference.segments.take (run.firstFull?.getD reference.segments.length)
  leaves_before_full : ∀ v ∈ run.course, v.command = .forward →
    run.builder.full (v.answer run).1 = true →
      run.leaves = (reference.course.take v.index).filterMap (Visit.leaf? reference)
  leaves_with_room : run.firstFull? = none → run.leaves = reference.leaves
  foliage :
    run.tour.walk.foliage =
      run.leaves.foldl Foliage.push (Foliage.empty reference.habit.leafScale)
  extent :
    run.tour.walk.extent =
      (reference.segments.take (run.firstFull?.getD reference.segments.length)).foldl
        (fun e segment => e.insert segment.stop) (Extent.empty.insert Vec3.zero)
  samples : run.samples <+: reference.samples
  stoppedEarly :
    run.tour.stoppedEarly = true ↔
      ∃ v ∈ run.course, v.command = .forward ∧ run.builder.full (v.answer run).1 = true ∧
        v.rest ≠ []

variable {reference : Setting α γ σ} {run : Setting α β σ}

theorem segments_eq_take_of_never_full (hskeleton : run.skeleton = reference.skeleton)
    (hfree : ∀ g, reference.builder.full g = false) :
    run.segments =
      reference.segments.take (run.firstFull?.getD reference.segments.length) := by
  have hreference :=
    segments_eq_skeleton_of_skipped (skipped_eq_zero_of_never_full hfree)
  cases hfirst : run.firstFull? with
  | none =>
      have hrun := segments_eq_skeleton_of_skipped
        (skipped_eq_zero_of_firstFull?_eq_none hfirst)
      rw [Option.getD_none, List.take_length, hrun, hreference, hskeleton]
  | some k =>
      have hbegins := List.prefix_iff_eq_take.mp run.segments_prefix_skeleton
      rw [length_segments_of_firstFull? hfirst, hskeleton, ← hreference] at hbegins
      exact hbegins

theorem leaves_eq_take_of_never_full (hskeleton : run.skeleton = reference.skeleton)
    (hfree : ∀ g, reference.builder.full g = false) {v : Visit α β σ} (hv : v ∈ run.course)
    (hends : v.ends run = true) :
    run.leaves = (reference.course.take v.index).filterMap (Visit.leaf? reference) := by
  have hreference := course_skeleton_eq (skipped_eq_zero_of_never_full hfree)
  rw [leaves_of_ends hv hends, hskeleton, ← hreference, ← List.map_take, List.filterMap_map]
  rfl

theorem cutShort_of_never_full (hskeleton : run.skeleton = reference.skeleton)
    (hfree : ∀ g, reference.builder.full g = false) : CutShort reference run := by
  have hsegments := segments_eq_take_of_never_full hskeleton hfree
  have hhabit : run.habit = reference.habit := congrArg (fun S => S.habit) hskeleton
  constructor
  · exact tour_builder
  · exact hsegments
  · intro v hv hcommand hfull
    exact leaves_eq_take_of_never_full hskeleton hfree hv
      (ends_eq_true_iff.mpr ⟨hcommand, hfull⟩)
  · intro hnone
    rw [leaves_eq_skeleton_of_skipped (skipped_eq_zero_of_firstFull?_eq_none hnone), hskeleton,
      ← leaves_eq_skeleton_of_skipped (skipped_eq_zero_of_never_full hfree)]
  · rw [tour_foliage, hhabit]
  · rw [tour_extent, hsegments]
  · have hbegins := run.samples_prefix_skeleton
    rwa [hskeleton, ← samples_eq_skeleton_of_skipped (skipped_eq_zero_of_never_full hfree)]
      at hbegins
  · exact stoppedEarly_iff

/-- Two walks over the same commands that both come to the end agree on all that is not their
builder's. -/
structure Agree (first : Setting α β σ) (second : Setting α γ σ) : Prop where
  segments : first.segments = second.segments
  foliage : first.tour.walk.foliage = second.tour.walk.foliage
  extent : first.tour.walk.extent = second.tour.walk.extent
  maxDepth : first.tour.walk.maxDepth = second.tour.walk.maxDepth

theorem agree_of_whole {first : Setting α β σ} {second : Setting α γ σ}
    (hskeleton : first.skeleton = second.skeleton)
    (hfirst : first.tour.stoppedEarly = false) (hsecond : second.tour.stoppedEarly = false) :
    Agree first second := by
  have hfirst' : first.tour.skipped = 0 := by simpa [Tour.stoppedEarly] using hfirst
  have hsecond' : second.tour.skipped = 0 := by simpa [Tour.stoppedEarly] using hsecond
  have hwalk : first.tour.walk.skeleton = second.tour.walk.skeleton := by
    rw [tour_skeleton_eq hfirst', tour_skeleton_eq hsecond', hskeleton]
  constructor
  · rw [segments_eq_skeleton_of_skipped hfirst', segments_eq_skeleton_of_skipped hsecond',
      hskeleton]
  · exact congrArg (fun w => w.foliage) hwalk
  · exact congrArg (fun w => w.extent) hwalk
  · exact congrArg (fun w => w.maxDepth) hwalk

/-- Whatever its builder answers, a walk is the walk with a builder that is never full, cut short
behind the first segment that fills its own.  With higher caps a plant is only added to, and with
no cap reached both kinds of geometry show the same plant. -/
theorem builder_independence (habit : Habit α) (source : Source α σ) (commands : List Command)
    (s : σ) (free : Builder α γ) (g : γ) (hfree : ∀ g, free.full g = false)
    (builder : Builder α β) (b : β) :
    CutShort ⟨habit, free, source, commands, g, s⟩ ⟨habit, builder, source, commands, b, s⟩ ∧
    (∀ (r : Request α) (segments vertices : UInt64),
      r.limits.segments ≤ segments → r.limits.vertices ≤ vertices →
        (r.setting source s).calls <+: ((r.withCaps segments vertices).setting source s).calls ∧
        (r.setting source s).leaves <+:
          ((r.withCaps segments vertices).setting source s).leaves ∧
        (r.setting source s).samples <+:
          ((r.withCaps segments vertices).setting source s).samples ∧
        (r.generation source s).geometry.Begins
          ((r.withCaps segments vertices).generation source s).geometry) ∧
    (∀ (r : Request α) (radial : Nat) (shape : Shape),
      let continuous := { r with mode := .continuous radial }
      let discrete := { r with mode := .discrete shape }
      (continuous.generation source s).stats.geometryTruncated = false →
      (discrete.generation source s).stats.geometryTruncated = false →
        Agree (continuous.setting source s) (discrete.setting source s)) := by
  refine ⟨cutShort_of_never_full rfl hfree, ?_, ?_⟩
  · intro r segments vertices hsegments hvertices
    have hroomier := GeometryBuilder.roomier (α := α)
      (vertices.toNat - r.limits.vertices.toNat) (segments.toNat - r.limits.segments.toNat)
    have hgeometry := r.geometry_begins_withCaps source s hsegments hvertices
    rw [r.setting_withCaps source s hsegments hvertices]
    exact ⟨calls_enlarged_isPrefix hroomier, leaves_enlarged_isPrefix hroomier,
      samples_enlarged_isPrefix hroomier, hgeometry⟩
  · intro r radial shape continuous discrete hcontinuous hdiscrete
    exact agree_of_whole rfl hcontinuous hdiscrete

private theorem seedling_whole (r : Request α) (source : Source α σ) (s : σ)
    (hword : Command.ofWord r.expansion.word = [.push, .turn .yaw true, .leaf, .pop, .forward]) :
    (r.generation source s).stats.geometryTruncated = false := by
  -- The only segment stands at the end, so it leaves nothing unread.
  by_contra hearly
  have hstopped : (r.generation source s).stats.geometryTruncated = true := by
    simpa using hearly
  obtain ⟨v, hv, hforward, _, hrest⟩ := (r.setting source s).stoppedEarly_iff.mp hstopped
  have hahead := drop_index hv
  have hcommand := command_at_index hv
  simp only [Request.setting, hword, hforward] at hahead hcommand
  obtain ⟨hlt, _⟩ := List.getElem?_eq_some_iff.mp hcommand
  simp only [List.length_cons, List.length_nil] at hlt
  interval_cases v.index <;> simp_all [Visit.ahead]

theorem builder_independence_seedling :
    let source : Source Float32 Unit := Source.constant Scalar.half
    let r : Request Float32 := Request.ofGrammar (Grammar.ofStart ['[', '+', 'L', ']', 'F']) 0
    (shrub Float32 3).firstFull? = some 3 ∧
    CutShort (shrub Float32 3).skeleton (shrub Float32 3) ∧
    (r.setting source ()).calls <+: ((r.withCaps 500000 20000000).setting source ()).calls ∧
    Agree ({ r with mode := .continuous 8 }.setting source ())
      ({ r with mode := .discrete .cylinder }.setting source ()) := by
  intro source r
  obtain ⟨hcut, hcaps, hmodes⟩ :=
    builder_independence (shrub Float32 3).habit (shrub Float32 3).source
      (shrub Float32 3).commands () Builder.silent () (fun _ => rfl) (shrub Float32 3).builder 0
  refine ⟨by decide, hcut, (hcaps r 500000 20000000 (by decide) (by decide)).1, ?_⟩
  exact hmodes r 8 .cylinder (seedling_whole _ _ _ rfl) (seedling_whole _ _ _ rfl)

end Setting

end PlantGrowth
