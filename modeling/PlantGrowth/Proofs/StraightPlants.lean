import PlantGrowth.Proofs.Extents
import PlantGrowth.Proofs.Insertion
import PlantGrowth.Proofs.RingFrames
import PlantGrowth.Proofs.Symbols
import PlantGrowth.Proofs.Trails
import PlantGrowth.Proofs.TubeEdges

/-!
# Plants that never turn

A turtle that is never told to turn goes straight up from the origin, by a step for each segment
that carries it, and a branch only takes it back down.  So the plant lies on a line, and how far up
a segment is can be counted on the word.  No ring of its tube is turned against the one before it:
a segment never bends away, and the frame of the first ring is carried on unchanged.
-/

namespace PlantGrowth

open Brackets

variable {β σ : Type}

namespace Command

/-- Whether the command turns the turtle, by the angle of the plant or around. -/
def rotates : Command → Bool
  | .turn _ _ => true
  | .turnAround => true
  | _ => false

theorem rotates_ofSymbol_iff (symbol : Char) :
    (ofSymbol symbol).rotates = true ↔ symbol ∈ ['+', '-', '&', '^', '\\', '/', '|'] := by
  unfold ofSymbol
  split <;> simp_all [rotates]

end Command

/-- The point `k` steps above the origin. -/
noncomputable def Vec3.above (step : ℝ) (k : ℕ) : Vec3 ℝ := ⟨0, k * step, 0⟩

theorem Vec3.above_zero (step : ℝ) : above step 0 = zero := by
  ext <;> simp [above, zero, zero_real]

/-! ## The turtle -/

/-- The turtle has not been turned and stands `k` steps above the origin. -/
structure Turtle.Upright (step : ℝ) (k : ℕ) (t : Turtle ℝ) : Prop where
  orientation_eq : t.orientation = Rotation.identity
  step_eq : t.step = step
  position_eq : t.position = Vec3.above step k

namespace Turtle.Upright

variable {step : ℝ} {k : ℕ} {t : Turtle ℝ}

theorem heading_eq (h : t.Upright step k) : t.heading = Vec3.unitY := by
  rw [Turtle.heading, h.orientation_eq, Rotation.apply_identity]

theorem stop_eq (h : t.Upright step k) (run : TaperRun ℝ) :
    (Walk.segment t run).stop = Vec3.above step (k + 1) := by
  have hstop : (Walk.segment t run).stop = t.position + t.heading.scale t.step := rfl
  rw [hstop, h.heading_eq, h.position_eq, h.step_eq]
  ext <;> simp [Vec3.above, Vec3.unitY, Vec3.scale, zero_real, one_real]
  ring

end Turtle.Upright

namespace Visit

variable (S : Setting ℝ β σ) (v : Visit ℝ β σ)

theorem after_pose (hpop : v.command ≠ .pop) (hrotates : v.command.rotates = false) :
    (v.after S).turtle.orientation = v.walk.turtle.orientation ∧
      (v.after S).turtle.step = v.walk.turtle.step := by
  cases hcommand : v.command <;>
    simp_all [after, Walk.step, Walk.sprout_eq, Walk.mark_eq, Walk.draw, Walk.push,
      Command.rotates]

end Visit

namespace Setting

section

variable {S : Setting ℝ β σ} (hstraight : ∀ c ∈ S.commands, c.rotates = false)

theorem start_upright (S : Setting ℝ β σ) : S.start.turtle.Upright S.habit.stepLength 0 :=
  ⟨rfl, rfl, (Vec3.above_zero _).symm⟩

include hstraight

theorem rotates_eq_false {v : Visit ℝ β σ} (hv : v ∈ S.course) : v.command.rotates = false :=
  hstraight _ (List.mem_of_getElem? (command_at_index hv))

theorem upright_after {u : Visit ℝ β σ} (hu : u ∈ S.course) (hpop : u.command ≠ .pop)
    (hupright : u.walk.turtle.Upright S.habit.stepLength (trail S.commands u.index).card) :
    (u.after S).turtle.Upright S.habit.stepLength (trail S.commands (u.index + 1)).card := by
  have hcommand := command_at_index hu
  obtain ⟨horientation, hstep⟩ := u.after_pose S hpop (rotates_eq_false hstraight hu)
  refine ⟨horientation.trans hupright.orientation_eq, hstep.trans hupright.step_eq, ?_⟩
  by_cases hforward : u.command = .forward
  · rw [Visit.after_position_of_forward S u hforward,
      card_trail_succ_of_forward (hforward ▸ hcommand)]
    exact hupright.stop_eq (u.taperRun S)
  · rw [(Visit.after_tip_of_other S u hforward hpop).1,
      trail_succ (not_matched_of_ne_pop hu hpop) (by simpa [hcommand] using hforward)]
    exact hupright.position_eq

/-- At every visit the turtle is as many steps up as segments carry it. -/
theorem upright_of_mem {v : Visit ℝ β σ} (hv : v ∈ S.course) :
    v.walk.turtle.Upright S.habit.stepLength (trail S.commands v.index).card := by
  refine turtle_induction
    (P := fun i t => t.Upright S.habit.stepLength (trail S.commands i).card)
    S.start_upright ?_ ?_ ?_ hv
  · intro u hu hpop hupright
    exact upright_after hstraight hu hpop hupright
  · intro p q t hmatched hupright
    rwa [trail_succ_of_matched hmatched]
  · intro u hu hpop hunmatched hupright
    rw [trail_succ hunmatched (by simp [command_at_index hu, hpop])]
    exact ⟨hupright.orientation_eq, hupright.step_eq, hupright.position_eq⟩

theorem map_ends_segments :
    S.segments.map (fun s => (s.start, s.stop)) =
      (S.draws.map Visit.index).map fun i =>
        (Vec3.above S.habit.stepLength (trail S.commands i).card,
          Vec3.above S.habit.stepLength ((trail S.commands i).card + 1)) := by
  rw [segments_eq_map_draws, List.map_map, List.map_map]
  apply List.map_congr_left
  intro v hv
  have hupright := upright_of_mem hstraight (List.mem_filter.mp hv).1
  exact Prod.ext hupright.position_eq (hupright.stop_eq (v.taperRun S))

end

end Setting

/-! ## The box -/

namespace Bounds

variable {step : ℝ}

theorem insert_above (hstep : 0 ≤ step) (m k : ℕ) :
    Bounds.insert ⟨Vec3.zero, Vec3.above step m⟩ (Vec3.above step k) =
      ⟨Vec3.zero, Vec3.above step (m ⊔ k)⟩ := by
  have hlow : (0 : ℝ) ≤ k * step := mul_nonneg k.cast_nonneg hstep
  have hhigh : ((m : ℝ) * step) ⊔ (k * step) = (m ⊔ k : ℕ) * step := by
    rw [Nat.cast_max, max_mul_of_nonneg _ _ hstep]
  simp only [Bounds.insert, Vec3.lesser, Vec3.greater, Vec3.above, Vec3.zero, Scalar.lesser,
    Scalar.greater, zero_real, min_self, max_self, min_eq_left hlow, hhigh]

theorem foldl_insert_above (hstep : 0 ≤ step) (heights : List ℕ) (m : ℕ) :
    (heights.map (Vec3.above step)).foldl Bounds.insert ⟨Vec3.zero, Vec3.above step m⟩ =
      ⟨Vec3.zero, Vec3.above step (heights.foldl (· ⊔ ·) m)⟩ := by
  induction heights generalizing m with
  | nil => rfl
  | cons k heights ih =>
      rw [List.map_cons, List.foldl_cons, insert_above hstep, ih]
      rfl

end Bounds

/-- The box of points above the origin goes up to the highest of them. -/
theorem Extent.exists_ofPoints_above {step : ℝ} (hstep : 0 ≤ step) (heights : List ℕ) :
    ∃ m, IsGreatest {k | k ∈ 0 :: heights} m ∧
      Extent.ofPoints (Vec3.zero :: heights.map (Vec3.above step)) =
        some ⟨Vec3.zero, Vec3.above step m⟩ := by
  have hmax : (0 :: heights).max? = some (heights.foldl (· ⊔ ·) 0) := List.max?_cons'
  obtain ⟨hmem, hle⟩ := List.max?_eq_some_iff.mp hmax
  refine ⟨heights.foldl (· ⊔ ·) 0, ⟨hmem, hle⟩, ?_⟩
  have hbox := Bounds.foldl_insert_above hstep heights 0
  rw [Vec3.above_zero] at hbox
  calc Extent.ofPoints (Vec3.zero :: heights.map (Vec3.above step))
      = some ((heights.map (Vec3.above step)).foldl Bounds.insert ⟨Vec3.zero, Vec3.zero⟩) :=
        Extent.foldl_insert_some _ _
    _ = some ⟨Vec3.zero, Vec3.above step (heights.foldl (· ⊔ ·) 0)⟩ := by rw [hbox]

theorem Setting.exists_extent_above {S : Setting ℝ β σ} {step : ℝ} (hstep : 0 ≤ step)
    {heights : List ℕ}
    (hstops : S.segments.map Segment.stop = heights.map (Vec3.above step)) :
    ∃ m, IsGreatest {k | k ∈ 0 :: heights} m ∧
      S.tour.walk.extent = some ⟨Vec3.zero, Vec3.above step m⟩ := by
  rw [tour_extent_eq, visited, hstops]
  exact Extent.exists_ofPoints_above hstep heights

/-! ## The tube -/

namespace RingFrame

variable {f : RingFrame ℝ}

theorem transport_self (hf : f.forward.IsUnit) (haxis : f.axis.IsUnit) :
    f.transport f.forward = f := by
  have hsame : Rotation.arcBetween f.forward f.forward = Rotation.identity := by
    have hparallel : Rotation.parallelBound < f.forward.dot f.forward := by
      rw [hf.dot_self, Rotation.parallelBound_real]
      norm_num
    simp [Rotation.arcBetween, Scalar.lt, hparallel]
  rw [transport_eq hf haxis hf, hsame, Rotation.apply_identity]

theorem isAlignedWith_self (hf : f.forward.IsUnit) :
    f.isAlignedWith f.forward TubeBuilder.bendThreshold = true := by
  have hthreshold : (TubeBuilder.bendThreshold : ℝ) ≤ 1 := by
    simp only [TubeBuilder.bendThreshold, Scalar.ratio, Scalar.ofNat_real]
    norm_num
  simp [isAlignedWith, hf.normalize_eq, hf.dot_self, Scalar.le, hthreshold]

/-- Straight on, the first ring is carried over as it is. -/
theorem initial_goes_on {q : Rotation ℝ} (hq : q.IsUnit) :
    (initial q).isAlignedWith (q.apply Vec3.unitY) TubeBuilder.bendThreshold = true ∧
      (initial q).transport (q.apply Vec3.unitY) = initial q := by
  have hforward := hq.apply Vec3.isUnit_unitY
  have haxis := hq.apply Vec3.isUnit_unitX
  rw [initial_eq hq]
  exact ⟨isAlignedWith_self hforward, transport_self hforward haxis⟩

end RingFrame

namespace TubeBuilder

/-- No ring of the tube was put in at a bend, and all have the frame that it began with. -/
structure Straight (t : TubeBuilder ℝ) : Prop where
  pivots : t.mesh.pivots = 0
  frames : ∀ frame ∈ t.frames, frame = RingFrame.initial Rotation.identity

variable {t : TubeBuilder ℝ}

theorem straight_begin (radial maxVertices : Nat) {turtle : Turtle ℝ}
    (hturtle : turtle.orientation = Rotation.identity) :
    ((empty radial maxVertices).begin turtle).1.Straight := by
  constructor
  · rfl
  · intro frame hframe
    rw [← hturtle]
    simpa [begin, pushRing, empty] using hframe

/-- A segment that goes straight up adds one more ring of the same frame. -/
theorem Straight.add (h : t.Straight) {ring : Anchor} (hring : ring < t.frames.size)
    {s : Segment ℝ} (hs : s.orientation = Rotation.identity) :
    (t.add s (some ring)).1.Straight := by
  have hframe := h.frames _ (Array.getElem_mem hring)
  have hheading : s.heading = Rotation.identity.apply Vec3.unitY := by rw [Segment.heading, hs]
  obtain ⟨haligned, hkept⟩ := RingFrame.initial_goes_on Rotation.isUnit_identity
  rw [← hheading, ← hframe] at haligned
  rw [← hheading] at hkept
  rw [add_of_aligned (frame?_of_lt hring) haligned, hframe, hkept]
  constructor
  · exact h.pivots
  · intro frame hmem
    rcases Array.mem_push.mp hmem with hold | hnew
    · exact h.frames frame hold
    · exact hnew

variable {radial n : Nat}

theorem Straight.rings_eq (h : t.Straight) (hsound : t.Sound radial n) :
    t.mesh.rings = 1 + n := by
  rw [hsound.rings, h.pivots, Nat.add_zero]

theorem Straight.frames_eq_replicate (h : t.Straight) (hsound : t.Sound radial n) :
    t.frames.toList = List.replicate (1 + n) (RingFrame.initial Rotation.identity) := by
  rw [List.eq_replicate_iff, Array.length_toList, hsound.frames]
  refine ⟨h.rings_eq hsound, ?_⟩
  intro frame hframe
  exact h.frames frame (Array.mem_toList_iff.mp hframe)

end TubeBuilder

namespace Setting

theorem tour_straight {S : Setting ℝ (TubeBuilder ℝ) σ} (hbuilder : S.builder = Builder.tube)
    {radial maxVertices : Nat} (hbuilt : S.built = TubeBuilder.empty radial maxVertices)
    (hstraight : ∀ c ∈ S.commands, c.rotates = false) : S.tour.walk.builder.Straight := by
  obtain ⟨habit, builder, source, commands, built, chance⟩ := S
  subst hbuilder hbuilt
  refine kept_tour (P := fun _ w => TubeBuilder.Straight w.builder) ?_ ?_
  · exact TubeBuilder.straight_begin radial maxVertices rfl
  · intro v hv h
    by_cases hforward : v.command = .forward
    · have hupheld := upholds_of_mem (TubeBuilder.upholds (max radial 3))
        (TubeBuilder.sound_begin maxVertices _) (TubeBuilder.knows_begin radial maxVertices _) hv
      obtain ⟨ring, hanchor, hring⟩ := hupheld.turtle
      rw [(Visit.after_built_of_forward hforward).1, Visit.answer, Visit.origin, hanchor]
      exact h.add hring (upright_of_mem hstraight hv).orientation_eq
    · rw [(Visit.after_built_of_other hforward).1]
      exact h

end Setting

/-! ## Words -/

/-- The positions of the symbols that draw. -/
def Command.drawPositions (word : Word) : List Nat :=
  (List.range word.length).filter fun i => word[i]?.any isForwardSymbol

namespace Setting

theorem map_index_draws_withWord {S : Setting ℝ β σ} {word : Word}
    (hread : (S.withWord word).tour.stoppedEarly = false) :
    (S.withWord word).draws.map Visit.index = Command.drawPositions word := by
  have hlength : (S.withWord word).course.length = word.length :=
    (length_course_of_read hread).trans (List.length_map _)
  rw [map_index_draws, hlength, Command.drawPositions]
  apply List.filter_congr
  intro i _
  rw [Bool.eq_iff_iff, decide_eq_true_iff]
  exact Command.getElem?_ofWord_eq_forward_iff

/-- A word without the symbols that turn the turtle grows a plant that stands on one line. -/
theorem straight_without_rotations (S : Setting ℝ β σ) (word : Word)
    (hword : ∀ symbol ∈ word, symbol ∉ ['+', '-', '&', '^', '\\', '/', '|'])
    (hstep : 0 ≤ S.habit.stepLength)
    (hread : (S.withWord word).tour.stoppedEarly = false) :
    let height i := (trail (Command.ofWord word) i).card
    (S.withWord word).segments.map (fun s => (s.start, s.stop)) =
        (Command.drawPositions word).map (fun i =>
          (Vec3.above S.habit.stepLength (height i),
            Vec3.above S.habit.stepLength (height i + 1))) ∧
      (∃ m, IsGreatest {k | k = 0 ∨ ∃ i ∈ Command.drawPositions word, height i + 1 = k} m ∧
        (S.withWord word).tour.walk.extent =
          some ⟨Vec3.zero, Vec3.above S.habit.stepLength m⟩) ∧
      ∀ radial maxVertices : Nat,
        let w := Walk.tube S.habit S.source word S.chance radial maxVertices
        w.builder.mesh.pivots = 0 ∧ w.builder.mesh.rings = 1 + w.segments ∧
          w.builder.frames.toList =
            List.replicate (1 + w.segments) (RingFrame.initial Rotation.identity) := by
  intro height
  have hstraight : ∀ c ∈ (S.withWord word).commands, c.rotates = false := by
    intro c hc
    obtain ⟨symbol, hsymbol, rfl⟩ := List.mem_map.mp hc
    rw [Bool.eq_false_iff, Ne, Command.rotates_ofSymbol_iff]
    exact hword symbol hsymbol
  have hends := map_ends_segments hstraight
  rw [map_index_draws_withWord hread] at hends
  refine ⟨hends, ?_, ?_⟩
  · have hstops : (S.withWord word).segments.map Segment.stop =
        ((Command.drawPositions word).map fun i => height i + 1).map
          (Vec3.above S.habit.stepLength) := by
      have hseconds := congrArg (List.map Prod.snd) hends
      rw [List.map_map, List.map_map] at hseconds
      rw [List.map_map]
      exact hseconds
    obtain ⟨m, hgreatest, hextent⟩ := exists_extent_above hstep hstops
    exact ⟨m, by simpa [eq_comm] using hgreatest, hextent⟩
  · intro radial maxVertices w
    let T : Setting ℝ (TubeBuilder ℝ) σ :=
      ⟨S.habit, Builder.tube, S.source, Command.ofWord word,
        TubeBuilder.empty radial maxVertices, S.chance⟩
    have hkept : w.builder.Straight := tour_straight (S := T) rfl rfl hstraight
    have hsound : w.builder.Sound (max radial 3) w.segments := tour_sound (S := T) rfl rfl
    exact ⟨hkept.pivots, hkept.rings_eq hsound, hkept.frames_eq_replicate hsound⟩

/-- A branch inside a branch, a bracket that closes none, and a branch that stays open. -/
theorem straight_without_rotations_forks :
    let S := shrub ℝ 9
    let word := "F[F[!F]LF]X]F[F".toList
    (∀ symbol ∈ word, symbol ∉ ['+', '-', '&', '^', '\\', '/', '|']) ∧
      0 ≤ S.habit.stepLength ∧ (S.withWord word).tour.stoppedEarly = false ∧
      Command.drawPositions word = [0, 2, 5, 8, 12, 14] ∧
      (S.withWord word).segments.map (fun s => (s.start, s.stop)) =
        [0, 1, 2, 2, 1, 2].map (fun k =>
          (Vec3.above S.habit.stepLength k, Vec3.above S.habit.stepLength (k + 1))) ∧
      (Walk.tube S.habit S.source word S.chance 5 1000).builder.mesh.pivots = 0 := by
  intro S word
  have hword : ∀ symbol ∈ word, symbol ∉ ['+', '-', '&', '^', '\\', '/', '|'] := by
    simp [word]
  have hstep : 0 ≤ S.habit.stepLength := Nat.cast_nonneg 1
  have hread : (S.withWord word).tour.stoppedEarly = false := by rfl
  obtain ⟨hends, _, htube⟩ := straight_without_rotations S word hword hstep hread
  refine ⟨hword, hstep, hread, by decide, ?_, (htube 5 1000).1⟩
  rw [hends]
  rfl

end Setting

end PlantGrowth
