import PlantGrowth.Proofs.CapRaising
import PlantGrowth.Proofs.CappedGrowth
import PlantGrowth.Proofs.Symbols
import PlantGrowth.Proofs.TubeRings

/-!
# What an output says of itself

An output comes with counts of what is in it: symbols, segments, leaves, rings and what the caps
have cut off.  They are kept apart while the plant is grown and walked over, by the expansion, the
walk and the builder, and only put together at the end.  For every request they agree with the
word, with the course of the walk and with the geometry.
-/

namespace PlantGrowth

variable {α σ : Type}

/-! ## The expansion -/

theorem Request.expansion_truncated_iff (r : Request α) :
    r.expansion.truncated = true ↔ r.expansion.passes < r.iterations :=
  r.grammar.expand_truncated_iff r.iterations r.limits.stringLength.toNat

/-! ## The walk -/

theorem Extent.isSome_insert [Scalar α] (extent : Extent α) (p : Vec3 α) :
    (extent.insert p).isSome = true := by
  cases extent <;> rfl

theorem Extent.isSome_foldl [Scalar α] {extent : Extent α} (hsome : extent.isSome = true)
    (segments : List (Segment α)) :
    (segments.foldl (fun e segment => e.insert segment.stop) extent).isSome = true := by
  induction segments generalizing extent with
  | nil => exact hsome
  | cons segment segments ih => exact ih (extent.isSome_insert segment.stop)

theorem Foliage.count_foldl_push [Scalar α] (leaves : List (LeafTransform α)) (f : Foliage α) :
    (leaves.foldl Foliage.push f).count = f.count + leaves.length := by
  induction leaves generalizing f with
  | nil => rfl
  | cons leaf leaves ih =>
      have hpush : (f.push leaf).count = f.count + 1 := Array.size_push _
      rw [List.foldl_cons, ih, hpush, List.length_cons]
      omega

namespace Setting

variable [Scalar α] {β : Type} {S : Setting α β σ}

theorem map_command_courseFrom (commands : List Command) (index : Nat) (w : Walk α β σ) :
    (S.courseFrom index commands w).map Visit.command =
      commands.take (S.courseFrom index commands w).length := by
  induction commands generalizing index w with
  | nil => rfl
  | cons c rest ih =>
      simp only [courseFrom, List.map_cons, List.length_cons, List.take_succ_cons]
      split
      · rfl
      · rw [ih]

/-- The walk has as many segments as it has obeyed commands to draw one. -/
theorem tour_segments_eq_countP :
    S.tour.walk.segments =
      (S.commands.take S.course.length).countP fun c => c = .forward := by
  have hcommands : S.course.map Visit.command = S.commands.take S.course.length :=
    map_command_courseFrom S.commands 0 S.start
  rw [tour_segments, segments_eq_map_draws, List.length_map, draws, ← hcommands,
    List.countP_map, List.countP_eq_length_filter]
  rfl

theorem stoppedEarly_iff_length_course :
    S.tour.stoppedEarly = true ↔ S.course.length < S.commands.length := by
  have htotal := length_course_add_skipped (S := S)
  simp only [Tour.stoppedEarly, decide_eq_true_eq]
  omega

theorem tour_foliage_count : S.tour.walk.foliage.count = S.leaves.length := by
  rw [tour_foliage, Foliage.count_foldl_push]
  exact Nat.zero_add _

theorem tour_extent_isSome : S.tour.walk.extent.isSome = true := by
  rw [tour_extent]
  exact Extent.isSome_foldl (Extent.isSome_insert _ _) S.segments

end Setting

/-! ## The geometry -/

namespace GeometryBuilder

variable [Scalar α]

/-- What holds of the geometry of a kind with `n` segments. -/
def Sound (mode : GeometryMode) (n : Nat) : GeometryBuilder α → Prop
  | .tube t => ∃ radial, mode = .continuous radial ∧ t.Sound (max radial 3) n
  | .instances b => ∃ shape, mode = .discrete shape ∧ b.instances.count = n

def Knows : GeometryBuilder α → Option Anchor → Prop
  | .tube t, anchor => t.Knows anchor
  | .instances _, _ => True

theorem upholds (mode : GeometryMode) :
    (Builder.geometry (α := α)).Upholds (Sound mode) Knows where
  sound := by
    intro n b s origin h hknown
    cases b with
    | tube t =>
        obtain ⟨radial, hmode, hsound⟩ := h
        exact ⟨radial, hmode, (TubeBuilder.upholds _).sound s hsound hknown⟩
    | instances b =>
        obtain ⟨shape, hmode, hcount⟩ := h
        refine ⟨shape, hmode, ?_⟩
        simp [InstanceBuilder.add, BranchInstances.count, ← hcount]
  answers := by
    intro n b s origin h hknown
    cases b with
    | tube t =>
        obtain ⟨radial, _, hsound⟩ := h
        exact (TubeBuilder.upholds _).answers s hsound hknown
    | instances b => trivial
  remembers := by
    intro n b s origin anchor h hknown hknown'
    cases b with
    | tube t =>
        obtain ⟨radial, _, hsound⟩ := h
        exact (TubeBuilder.upholds _).remembers s hsound hknown hknown'
    | instances b => trivial

end GeometryBuilder

namespace Request

variable [Scalar α] (r : Request α) (source : Source α σ) (s : σ)

theorem begin_sound (turtle : Turtle α) :
    (Builder.geometry.begin r.builder turtle).1.Sound r.mode 0 ∧
      (Builder.geometry.begin r.builder turtle).1.Knows
        (Builder.geometry.begin r.builder turtle).2 := by
  unfold builder
  cases r.mode with
  | continuous radial =>
      exact ⟨⟨radial, rfl, TubeBuilder.sound_begin _ turtle⟩,
        TubeBuilder.knows_begin radial _ turtle⟩
  | discrete shape => exact ⟨⟨shape, rfl, rfl⟩, trivial⟩

theorem tour_sound :
    (r.setting source s).tour.walk.builder.Sound r.mode
      (r.setting source s).tour.walk.segments := by
  obtain ⟨hsound, hknown⟩ := r.begin_sound (Turtle.atOrigin r.habit.stepLength r.habit.baseWidth)
  exact (Setting.tour_upholds (S := r.setting source s) (GeometryBuilder.upholds r.mode) hsound
    hknown).built

end Request

/-! ## The output -/

def Vec3.coordinates (v : Vec3 α) : List α := [v.x, v.y, v.z]

namespace Output

/-- A tube of `n` vertices around, with its counts. -/
structure CountsTube (o : Output α) (n : Nat) (mesh : TubeMesh α) : Prop where
  ofMesh : o.stats.rings = mesh.rings ∧ o.stats.pivots = mesh.pivots ∧
    o.stats.vertices = mesh.vertexCount ∧ o.stats.triangles = mesh.triangleCount
  rings : o.stats.rings = 1 + o.stats.segments + o.stats.pivots
  pivots : o.stats.pivots ≤ o.stats.segments
  vertices : o.stats.vertices = o.stats.rings * n
  triangles : o.stats.triangles = (o.stats.rings - 1) * 2 * n
  positions : (mesh.positions.toList.flatMap Vec3.coordinates).length = 3 * o.stats.vertices
  colors : (mesh.colors.toList.flatMap Vec3.coordinates).length = 3 * o.stats.vertices
  branchColors : o.branchColors = #[]

structure CountsInstances (o : Output α) (list : BranchInstances α) : Prop where
  instances : list.count = o.stats.segments
  branchColors : o.branchColors.size = o.stats.segments
  rings : o.stats.rings = 0
  pivots : o.stats.pivots = 0
  vertices : o.stats.vertices = 0
  triangles : o.stats.triangles = 0

/-- The geometry is of the mode, and it is as large as the output says. -/
def CountsGeometry (o : Output α) (mode : GeometryMode) : Prop :=
  match mode, o.geometry with
  | .continuous radial, .tube mesh => o.CountsTube (max radial 3) mesh
  | .discrete _, .instances list => o.CountsInstances list
  | _, _ => False

end Output

theorem Vec3.length_flatMap_coordinates (points : List (Vec3 α)) :
    (points.flatMap coordinates).length = 3 * points.length := by
  simp [List.length_flatMap, coordinates, Nat.mul_comm]

namespace Generation

variable [Scalar α] (g : Generation α σ)

/-- Colouring comes last and changes no count. -/
theorem output_stats : g.output.stats = g.stats := by
  unfold output Output.recolor
  split <;> rfl

theorem output_foliage_extent :
    g.output.foliage = g.tour.walk.foliage ∧ g.output.extent = g.tour.walk.extent := by
  unfold output Output.recolor
  split <;> exact ⟨rfl, rfl⟩

omit [Scalar α] in
theorem stats_of_tube {mesh : TubeMesh α} (hgeometry : g.geometry = .tube mesh) :
    g.stats.rings = mesh.rings ∧ g.stats.pivots = mesh.pivots ∧
      g.stats.vertices = mesh.vertexCount ∧ g.stats.triangles = mesh.triangleCount := by
  simp [stats, hgeometry]

omit [Scalar α] in
theorem stats_of_instances {list : BranchInstances α} (hgeometry : g.geometry = .instances list) :
    g.stats.rings = 0 ∧ g.stats.pivots = 0 ∧ g.stats.vertices = 0 ∧ g.stats.triangles = 0 := by
  simp [stats, hgeometry]

theorem countsGeometry_of_tube {t : TubeBuilder α} {n : Nat}
    (hbuilder : g.tour.walk.builder = .tube t) (hsound : t.Sound n g.tour.walk.segments) :
    ∃ mesh, g.output.geometry = .tube mesh ∧ g.output.CountsTube n mesh := by
  obtain ⟨pairs, hpairs⟩ := hsound.stitched
  have hgeometry : g.geometry = .tube t.mesh := by
    rw [geometry, hbuilder]
    rfl
  obtain ⟨hrings, hpivots, hvertices, htriangles⟩ := g.stats_of_tube hgeometry
  have hsegments : g.stats.segments = g.tour.walk.segments := rfl
  have hsize : g.stats.vertices = t.mesh.rings * n := by
    rw [hvertices, TubeMesh.vertexCount, hpairs.positions, hsound.radial_eq]
  have hplain : g.plain.geometry = .tube t.mesh := hgeometry
  have houtput : g.output = { g.plain with
      geometry := .tube (t.mesh.recolor
        (Gradient.ofExtent g.request.palette.base g.request.palette.tip g.plain.extent)) } := by
    unfold output Output.recolor
    rw [hplain]
  refine ⟨_, by rw [houtput], ?_⟩
  constructor
  · rw [output_stats]
    exact ⟨hrings, hpivots, hvertices, htriangles⟩
  · rw [output_stats, hrings, hpivots, hsegments]
    exact hsound.rings
  · rw [output_stats, hpivots, hsegments]
    exact hsound.pivots
  · rw [output_stats, hsize, hrings]
  · rw [output_stats, htriangles, hrings, hpairs.triangleCount, hsound.radial_eq, Nat.mul_assoc]
  · rw [output_stats, hvertices, Vec3.length_flatMap_coordinates, Array.length_toList]
    rfl
  · rw [output_stats, hvertices, Vec3.length_flatMap_coordinates, Array.length_toList]
    simp [TubeMesh.recolor, TubeMesh.vertexCount]
  · rw [houtput]
    rfl

theorem countsGeometry_of_instances {b : InstanceBuilder α}
    (hbuilder : g.tour.walk.builder = .instances b)
    (hcount : b.instances.count = g.tour.walk.segments) :
    ∃ list, g.output.geometry = .instances list ∧ g.output.CountsInstances list := by
  have hgeometry : g.geometry = .instances b.instances := by
    rw [geometry, hbuilder]
    rfl
  obtain ⟨hrings, hpivots, hvertices, htriangles⟩ := g.stats_of_instances hgeometry
  have hsegments : g.stats.segments = g.tour.walk.segments := rfl
  have hplain : g.plain.geometry = .instances b.instances := hgeometry
  have houtput : g.output = { g.plain with
      geometry := .instances b.instances
      branchColors := b.instances.colors g.request.palette.base g.request.palette.tip
        g.plain.extent } := by
    unfold output Output.recolor
    rw [hplain]
  refine ⟨b.instances, by rw [houtput], ?_⟩
  constructor
  · rw [output_stats, hsegments, hcount]
  · rw [houtput]
    simp only [BranchInstances.colors, Array.size_map]
    exact hcount
  · rw [output_stats, hrings]
  · rw [output_stats, hpivots]
  · rw [output_stats, hvertices]
  · rw [output_stats, htriangles]

end Generation

namespace Request

variable [Scalar α] (r : Request α) (source : Source α σ) (s : σ)

theorem output_countsGeometry : (r.generation source s).output.CountsGeometry r.mode := by
  have hsound := r.tour_sound source s
  rw [← generation_tour] at hsound
  unfold Output.CountsGeometry
  cases hbuilder : (r.generation source s).tour.walk.builder with
  | tube t =>
      rw [hbuilder] at hsound
      obtain ⟨radial, hmode, hsound⟩ := hsound
      obtain ⟨mesh, hgeometry, hcounts⟩ :=
        (r.generation source s).countsGeometry_of_tube hbuilder hsound
      rw [hmode, hgeometry]
      exact hcounts
  | instances b =>
      rw [hbuilder] at hsound
      obtain ⟨shape, hmode, hcount⟩ := hsound
      obtain ⟨list, hgeometry, hcounts⟩ :=
        (r.generation source s).countsGeometry_of_instances hbuilder hcount
      rw [hmode, hgeometry]
      exact hcounts

/-- How many symbols of the grown word the walk has obeyed. -/
def symbolsRead : Nat := (r.setting source s).course.length

theorem segments_eq_countP :
    (r.setting source s).tour.walk.segments =
      (r.expansion.word.take (r.symbolsRead source s)).countP Command.isForwardSymbol := by
  have hcommands : (r.setting source s).commands = r.expansion.word.map Command.ofSymbol := rfl
  rw [Setting.tour_segments_eq_countP, hcommands, ← List.map_take]
  exact Command.countP_ofWord _

/-- What an output says of itself is true of it, and of the word and the walk that it is from. -/
structure Describes (o : Output α) : Prop where
  segments : o.stats.segments =
    (r.expansion.word.take (r.symbolsRead source s)).countP Command.isForwardSymbol
  leaves : o.stats.leaves = o.foliage.count
  placed : o.foliage.count = (r.setting source s).leaves.length
  extent : o.extent.isSome = true
  wordLength : o.stats.wordLength = r.expansion.word.length
  wordTruncated : o.stats.wordTruncated = true ↔ o.stats.passes < r.iterations
  geometryTruncated :
    o.stats.geometryTruncated = true ↔ r.symbolsRead source s < r.expansion.word.length
  geometry : o.CountsGeometry r.mode

theorem output_consistent : r.Describes source s (r.generation source s).output := by
  have hstats := (r.generation source s).output_stats
  obtain ⟨hfoliage, hextent⟩ := (r.generation source s).output_foliage_extent
  constructor
  · rw [hstats]
    exact r.segments_eq_countP source s
  · rw [hstats, hfoliage]
    rfl
  · rw [hfoliage, generation_tour]
    exact Setting.tour_foliage_count (S := r.setting source s)
  · rw [hextent, generation_tour]
    exact Setting.tour_extent_isSome (S := r.setting source s)
  · rw [hstats]
    rfl
  · rw [hstats]
    exact r.expansion_truncated_iff
  · rw [hstats]
    have hlength : (r.setting source s).commands.length = r.expansion.word.length :=
      List.length_map _
    rw [← hlength]
    exact Setting.stoppedEarly_iff_length_course (S := r.setting source s)
  · exact r.output_countsGeometry source s

end Request

end PlantGrowth
