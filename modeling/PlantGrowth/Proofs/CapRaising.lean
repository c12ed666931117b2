import PlantGrowth.Proofs.WalkSimulation
import PlantGrowth.Generation.Output
import Mathlib.Data.List.Infix

/-!
# Raising a cap

A builder with more room does the same as one with less, until the latter is full.  So the branches
of a plant with raised caps begin with those of the plant itself: nothing that was built before is
built otherwise, and what comes later is only added.
-/

namespace PlantGrowth

variable {α β σ : Type} [Scalar α]

/-- A change of what is built that the builder takes no notice of, except that it may be full
later. -/
structure Builder.Roomier (builder : Builder α β) (enlarge : β → β) : Prop where
  begin : ∀ b t,
    builder.begin (enlarge b) t = (enlarge (builder.begin b t).1, (builder.begin b t).2)
  add : ∀ b s origin,
    builder.add (enlarge b) s origin =
      (enlarge (builder.add b s origin).1, (builder.add b s origin).2)
  full : ∀ b, builder.full (enlarge b) = true → builder.full b = true

def Walk.enlarged (enlarge : β → β) (w : Walk α β σ) : Walk α β σ :=
  { w with builder := enlarge w.builder }

namespace Setting

def enlarged (enlarge : β → β) (S : Setting α β σ) : Setting α β σ :=
  { S with built := enlarge S.built }

variable {S : Setting α β σ} {enlarge : β → β}

theorem seenIn_enlarged (hroomier : S.builder.Roomier enlarge) :
    S.SeenIn (S.enlarged enlarge) (Walk.enlarged enlarge) := by
  have hstep : ∀ v : Visit α β σ,
      (v.map (Walk.enlarged enlarge)).after (S.enlarged enlarge) =
        (v.after S).enlarged enlarge := by
    intro v
    cases hcommand : v.command <;>
      simp [Visit.after, Visit.map, hcommand, Walk.step, Walk.sprout_eq, Walk.mark_eq,
        Walk.pop_eq, Walk.draw, Walk.turn, Walk.turnAround, Walk.push, Walk.enlarged, enlarged,
        hroomier.add]
  refine ⟨hstep, ?_⟩
  intro v hends
  unfold Visit.ends Walk.ends at hends ⊢
  rw [hstep] at hends
  simp only [Bool.and_eq_true] at hends ⊢
  exact ⟨hends.1, hroomier.full _ hends.2⟩

theorem start_enlarged (hroomier : S.builder.Roomier enlarge) :
    (S.enlarged enlarge).start = S.start.enlarged enlarge := by
  simp [start, Walk.begin, enlarged, Walk.enlarged, hroomier.begin]

theorem course_enlarged_isPrefix (hroomier : S.builder.Roomier enlarge) :
    S.course.map (Visit.map (Walk.enlarged enlarge)) <+: (S.enlarged enlarge).course := by
  have hbegins := (seenIn_enlarged hroomier).courseFrom_isPrefix S.commands 0 S.start
  rwa [← start_enlarged hroomier] at hbegins

theorem calls_enlarged_isPrefix (hroomier : S.builder.Roomier enlarge) :
    S.calls <+: (S.enlarged enlarge).calls := by
  have hbegins := (course_enlarged_isPrefix hroomier).filterMap
    (Visit.call? (S.enlarged enlarge))
  rw [List.filterMap_map] at hbegins
  exact hbegins

theorem leaves_enlarged_isPrefix (hroomier : S.builder.Roomier enlarge) :
    S.leaves <+: (S.enlarged enlarge).leaves := by
  have hbegins := (course_enlarged_isPrefix hroomier).filterMap
    (Visit.leaf? (S.enlarged enlarge))
  rw [List.filterMap_map] at hbegins
  exact hbegins

theorem samples_enlarged_isPrefix (hroomier : S.builder.Roomier enlarge) :
    S.samples <+: (S.enlarged enlarge).samples := by
  have hbegins := List.IsPrefix.flatMap (course_enlarged_isPrefix hroomier)
    (Visit.samples (S.enlarged enlarge))
  rw [List.flatMap_map] at hbegins
  exact hbegins

/-- With more room the builder goes on from where it would have ended. -/
theorem exists_tour_builder_enlarged (hroomier : S.builder.Roomier enlarge) :
    ∃ more : List (Segment α × Option Anchor),
      (S.enlarged enlarge).tour.walk.builder =
        more.foldl (fun b call => (S.builder.add b call.1 call.2).1)
          (enlarge S.tour.walk.builder) := by
  obtain ⟨more, hmore⟩ := calls_enlarged_isPrefix hroomier
  refine ⟨more, ?_⟩
  have henlarge : ∀ (calls : List (Segment α × Option Anchor)) (b : β),
      calls.foldl (fun b call => (S.builder.add b call.1 call.2).1) (enlarge b) =
        enlarge (calls.foldl (fun b call => (S.builder.add b call.1 call.2).1) b) := by
    intro calls
    induction calls with
    | nil => exact fun _ => rfl
    | cons call calls ih =>
        intro b
        simp only [List.foldl_cons, hroomier.add, ih]
  rw [tour_builder, tour_builder, ← hmore, List.foldl_append, start_enlarged hroomier]
  simp only [enlarged, Walk.enlarged, henlarge]

end Setting

/-! ## The caps of the two kinds of geometry -/

namespace TubeBuilder

def withRoom (extra : Nat) (t : TubeBuilder α) : TubeBuilder α :=
  { t with maxVertices := t.maxVertices + extra }

theorem pushRing_withRoom (t : TubeBuilder α) (extra : Nat) (center : Vec3 α) (radius : α)
    (frame : RingFrame α) :
    (t.withRoom extra).pushRing center radius frame =
      ((t.pushRing center radius frame).1.withRoom extra,
        (t.pushRing center radius frame).2) := rfl

theorem root_withRoom (t : TubeBuilder α) (extra : Nat) (s : Segment α)
    (origin : Option Anchor) :
    (t.withRoom extra).root s origin =
      ((t.root s origin).1.withRoom extra, (t.root s origin).2) := by
  have hframe : (t.withRoom extra).frame? = t.frame? := rfl
  unfold root
  rw [hframe]
  split <;> simp [pushRing_withRoom]

theorem bend_withRoom (t : TubeBuilder α) (extra : Nat) (s : Segment α) (anchor : Anchor)
    (frame : RingFrame α) :
    (t.withRoom extra).bend s anchor frame =
      ((t.bend s anchor frame).1.withRoom extra, (t.bend s anchor frame).2) := by
  unfold bend
  split <;> rfl

theorem add_withRoom (t : TubeBuilder α) (extra : Nat) (s : Segment α)
    (origin : Option Anchor) :
    (t.withRoom extra).add s origin =
      ((t.add s origin).1.withRoom extra, (t.add s origin).2) := by
  simp only [add, root_withRoom, bend_withRoom, pushRing_withRoom]
  rfl

end TubeBuilder

namespace GeometryBuilder

def withRoom (vertices instances : Nat) : GeometryBuilder α → GeometryBuilder α
  | .tube t => .tube (t.withRoom vertices)
  | .instances b => .instances { b with maxSegments := b.maxSegments + instances }

theorem roomier (vertices instances : Nat) :
    (Builder.geometry (α := α)).Roomier (withRoom vertices instances) := by
  constructor
  · intro b t
    cases b <;> rfl
  · intro b s origin
    cases b with
    | tube t =>
        simp only [Builder.geometry, add, withRoom, Builder.tube, TubeBuilder.add_withRoom]
    | instances b => rfl
  · intro b hfull
    cases b with
    | tube t =>
        simp only [Builder.geometry, full, withRoom, TubeBuilder.full, TubeBuilder.withRoom,
          decide_eq_true_eq] at hfull ⊢
        omega
    | instances b =>
        simp only [Builder.geometry, full, withRoom, InstanceBuilder.full,
          decide_eq_true_eq] at hfull ⊢
        omega

end GeometryBuilder

/-! ## What is built is only added to -/

/-- The surface `mesh'` begins with the rings and triangles of `mesh`. -/
structure TubeMesh.Begins (mesh mesh' : TubeMesh α) : Prop where
  radial : mesh'.radial = mesh.radial
  positions : mesh.positions.toList <+: mesh'.positions.toList
  triangles : mesh.triangles.toList <+: mesh'.triangles.toList

namespace TubeMesh.Begins

omit [Scalar α] in
theorem refl (mesh : TubeMesh α) : mesh.Begins mesh :=
  ⟨rfl, List.prefix_refl _, List.prefix_refl _⟩

omit [Scalar α] in
theorem trans {mesh mesh' mesh'' : TubeMesh α} (h : mesh.Begins mesh')
    (h' : mesh'.Begins mesh'') : mesh.Begins mesh'' :=
  ⟨h'.radial.trans h.radial, h.positions.trans h'.positions, h.triangles.trans h'.triangles⟩

end TubeMesh.Begins

namespace TubeBuilder

theorem begins_pushRing (t : TubeBuilder α) (center : Vec3 α) (radius : α)
    (frame : RingFrame α) : t.mesh.Begins (t.pushRing center radius frame).1.mesh :=
  ⟨rfl, by simp [pushRing], List.prefix_refl _⟩

omit [Scalar α] in
theorem begins_stitch (t : TubeBuilder α) (p q : Anchor) :
    t.mesh.Begins (t.stitch p q).mesh :=
  ⟨rfl, List.prefix_refl _, by simp [stitch]⟩

theorem begins_root (t : TubeBuilder α) (s : Segment α) (origin : Option Anchor) :
    t.mesh.Begins (t.root s origin).1.mesh := by
  unfold root
  split
  · exact TubeMesh.Begins.refl _
  · exact t.begins_pushRing _ _ _

theorem begins_bend (t : TubeBuilder α) (s : Segment α) (anchor : Anchor)
    (frame : RingFrame α) : t.mesh.Begins (t.bend s anchor frame).1.mesh := by
  unfold bend
  split
  · exact TubeMesh.Begins.refl _
  · have hstitch := (t.begins_pushRing s.start (s.startWidth * Scalar.half)
      (frame.transport s.heading)).trans (begins_stitch _ anchor t.frames.size)
    exact ⟨hstitch.radial, hstitch.positions, hstitch.triangles⟩

theorem begins_add (t : TubeBuilder α) (s : Segment α) (origin : Option Anchor) :
    t.mesh.Begins (t.add s origin).1.mesh := by
  have hroot := t.begins_root s origin
  have hbend := hroot.trans
    ((t.root s origin).1.begins_bend s (t.root s origin).2.1 (t.root s origin).2.2)
  exact (hbend.trans (begins_pushRing _ _ _ _)).trans (begins_stitch _ _ _)

end TubeBuilder

def Geometry.Begins : Geometry α → Geometry α → Prop
  | .tube mesh, .tube mesh' => mesh.Begins mesh'
  | .instances list, .instances list' =>
    list'.shape = list.shape ∧ list.list.toList <+: list'.list.toList
  | _, _ => False

namespace GeometryBuilder

theorem begins_add {g : Geometry α} (b : GeometryBuilder α) (s : Segment α)
    (origin : Option Anchor) (h : g.Begins b.geometry) :
    g.Begins (Builder.geometry.add b s origin).1.geometry := by
  cases b with
  | tube t =>
      cases g with
      | tube mesh => exact TubeMesh.Begins.trans h (t.begins_add s origin)
      | instances list => exact h.elim
  | instances b =>
      cases g with
      | tube mesh => exact h.elim
      | instances list =>
          have hpush : b.instances.list.toList <+: (b.add s).instances.list.toList := by
            simp [InstanceBuilder.add]
          exact ⟨h.1, h.2.trans hpush⟩

theorem begins_foldl {g : Geometry α} (calls : List (Segment α × Option Anchor))
    (b : GeometryBuilder α) (h : g.Begins b.geometry) :
    g.Begins
      (calls.foldl (fun b call => (Builder.geometry.add b call.1 call.2).1) b).geometry := by
  induction calls generalizing b with
  | nil => exact h
  | cons call calls ih => exact ih _ (b.begins_add call.1 call.2 h)

end GeometryBuilder

/-! ## Requests with raised limits -/

namespace Request

def setting (r : Request α) (source : Source α σ) (s : σ) :
    Setting α (GeometryBuilder α) σ :=
  ⟨r.habit, Builder.geometry, source, Command.ofWord r.expansion.word, r.builder, s⟩

theorem generation_tour (r : Request α) (source : Source α σ) (s : σ) :
    (r.generation source s).tour = (r.setting source s).tour := rfl

/-- The request with other caps on its geometry. -/
def withCaps (r : Request α) (segments vertices : UInt64) : Request α :=
  { r with limits := { r.limits with segments, vertices } }

omit [Scalar α] in
theorem builder_withCaps (r : Request α) {segments vertices : UInt64}
    (hsegments : r.limits.segments ≤ segments) (hvertices : r.limits.vertices ≤ vertices) :
    (r.withCaps segments vertices).builder =
      r.builder.withRoom (vertices.toNat - r.limits.vertices.toNat)
        (segments.toNat - r.limits.segments.toNat) := by
  rw [UInt64.le_iff_toNat_le] at hsegments hvertices
  unfold builder withCaps
  cases r.mode with
  | continuous radial =>
      simp [GeometryBuilder.withRoom, TubeBuilder.withRoom, TubeBuilder.empty,
        Nat.add_sub_cancel' hvertices]
  | discrete shape =>
      simp [GeometryBuilder.withRoom, InstanceBuilder.empty, Nat.add_sub_cancel' hsegments]

theorem setting_withCaps (r : Request α) (source : Source α σ) (s : σ)
    {segments vertices : UInt64} (hsegments : r.limits.segments ≤ segments)
    (hvertices : r.limits.vertices ≤ vertices) :
    (r.withCaps segments vertices).setting source s =
      (r.setting source s).enlarged
        (GeometryBuilder.withRoom (vertices.toNat - r.limits.vertices.toNat)
          (segments.toNat - r.limits.segments.toNat)) := by
  unfold setting Setting.enlarged
  rw [builder_withCaps r hsegments hvertices]
  rfl

theorem geometry_begins_withCaps (r : Request α) (source : Source α σ) (s : σ)
    {segments vertices : UInt64} (hsegments : r.limits.segments ≤ segments)
    (hvertices : r.limits.vertices ≤ vertices) :
    (r.generation source s).geometry.Begins
      ((r.withCaps segments vertices).generation source s).geometry := by
  obtain ⟨more, hbuilder⟩ := Setting.exists_tour_builder_enlarged (S := r.setting source s)
    (GeometryBuilder.roomier (vertices.toNat - r.limits.vertices.toNat)
      (segments.toNat - r.limits.segments.toNat))
  unfold Generation.geometry
  rw [generation_tour, generation_tour, setting_withCaps r source s hsegments hvertices,
    hbuilder]
  apply GeometryBuilder.begins_foldl
  cases (r.setting source s).tour.walk.builder with
  | tube t => exact TubeMesh.Begins.refl _
  | instances b => exact ⟨rfl, List.prefix_refl _⟩

end Request

end PlantGrowth
