import PlantGrowth.Geometry.Tube
import PlantGrowth.Proofs.BuilderInvariant

/-!
# The rings of a tube

A tube that is being built consists of a root ring and of rings that are each stitched, when they
come, to one ring that is there already.  So its triangles are the bands of a list of pairs, in
which every ring but the root is the second of one pair.  Since a walk only asks for segments that
grow from rings it knows of, no second root comes up, and rings, segments and pivots are tied
together by their numbers.
-/

namespace PlantGrowth

variable {α β σ : Type} [Scalar α]

/-- The rings of `m` are stitched as the pairs say, the first ring of a pair being the one that the
second grows from. -/
structure TubeMesh.StitchedBy (m : TubeMesh α) (pairs : List (Nat × Nat)) : Prop where
  rooted : 0 < m.rings
  positions : m.positions.size = m.rings * m.radial
  triangles : m.triangles.toList =
    pairs.flatMap fun pair => TubeBuilder.band m.radial pair.1 pair.2
  children : pairs.map Prod.snd = List.range' 1 (m.rings - 1)
  older : ∀ pair ∈ pairs, pair.1 < pair.2

namespace TubeMesh.StitchedBy

variable {m : TubeMesh α} {pairs : List (Nat × Nat)}

omit [Scalar α] in
theorem length_pairs (h : m.StitchedBy pairs) : pairs.length = m.rings - 1 := by
  have hchildren := congrArg List.length h.children
  simpa using hchildren

omit [Scalar α] in
theorem triangleCount (h : m.StitchedBy pairs) :
    m.triangleCount = (m.rings - 1) * (2 * m.radial) := by
  have hband : ∀ p q, (TubeBuilder.band m.radial p q).length = 2 * m.radial := by
    intro p q
    simp [TubeBuilder.band, Nat.mul_comm]
  rw [TubeMesh.triangleCount, ← Array.length_toList, h.triangles, List.length_flatMap]
  simp [hband, h.length_pairs]

end TubeMesh.StitchedBy

namespace TubeBuilder

/-- What holds of a tube with `n` segments. -/
structure Sound (radial n : Nat) (t : TubeBuilder α) : Prop where
  radial_eq : t.mesh.radial = radial
  frames : t.frames.size = t.mesh.rings
  rings : t.mesh.rings = 1 + n + t.mesh.pivots
  pivots : t.mesh.pivots ≤ n
  stitched : ∃ pairs, t.mesh.StitchedBy pairs

def Knows (t : TubeBuilder α) (anchor : Option Anchor) : Prop :=
  ∃ ring, anchor = some ring ∧ ring < t.frames.size

/-- Adds a ring that is stitched to ring `p`. -/
def grow (t : TubeBuilder α) (p : Anchor) (center : Vec3 α) (radius : α) (frame : RingFrame α) :
    TubeBuilder α :=
  (t.pushRing center radius frame).1.stitch p t.frames.size

variable (t : TubeBuilder α) (p : Anchor) (center : Vec3 α) (radius : α) (frame : RingFrame α)

@[simp] theorem grow_frames_size :
    (t.grow p center radius frame).frames.size = t.frames.size + 1 := by
  simp [grow, pushRing, stitch]

@[simp] theorem grow_rings :
    (t.grow p center radius frame).mesh.rings = t.mesh.rings + 1 := rfl

@[simp] theorem grow_pivots :
    (t.grow p center radius frame).mesh.pivots = t.mesh.pivots := rfl

@[simp] theorem grow_maxVertices :
    (t.grow p center radius frame).maxVertices = t.maxVertices := rfl

theorem length_ringPoints (n : Nat) : (ringPoints n center radius frame).length = n := by
  simp [ringPoints]

@[simp] theorem grow_vertexCount :
    (t.grow p center radius frame).mesh.vertexCount = t.mesh.vertexCount + t.mesh.radial := by
  simp [grow, stitch, pushRing, TubeMesh.vertexCount, length_ringPoints]

variable {t p}

theorem stitchedBy_grow {pairs : List (Nat × Nat)} (h : t.mesh.StitchedBy pairs)
    (hframes : t.frames.size = t.mesh.rings) (hp : p < t.mesh.rings) :
    (t.grow p center radius frame).mesh.StitchedBy (pairs ++ [(p, t.mesh.rings)]) where
  rooted := Nat.succ_pos _
  positions := by
    simp [grow, stitch, pushRing, h.positions, length_ringPoints, Nat.succ_mul]
  triangles := by
    simp [grow, stitch, pushRing, h.triangles, hframes]
  children := by
    obtain ⟨k, hk⟩ := Nat.exists_eq_add_one_of_ne_zero h.rooted.ne'
    rw [List.map_append, h.children, grow_rings, hk, Nat.add_sub_cancel, Nat.add_sub_cancel,
      List.range'_1_concat, Nat.add_comm 1 k]
    rfl
  older := by
    intro pair hpair
    rw [List.mem_append, List.mem_singleton] at hpair
    rcases hpair with hpair | rfl
    · exact h.older pair hpair
    · exact hp

/-- Adds a pivot ring on ring `p`. -/
def growPivot (t : TubeBuilder α) (p : Anchor) (center : Vec3 α) (radius : α)
    (frame : RingFrame α) : TubeBuilder α :=
  let t' := t.grow p center radius frame
  { t' with mesh := { t'.mesh with pivots := t'.mesh.pivots + 1 } }

section

variable (t p)

@[simp] theorem growPivot_frames_size :
    (t.growPivot p center radius frame).frames.size = t.frames.size + 1 :=
  grow_frames_size t p center radius frame

@[simp] theorem growPivot_rings :
    (t.growPivot p center radius frame).mesh.rings = t.mesh.rings + 1 := rfl

@[simp] theorem growPivot_pivots :
    (t.growPivot p center radius frame).mesh.pivots = t.mesh.pivots + 1 := rfl

@[simp] theorem growPivot_radial :
    (t.growPivot p center radius frame).mesh.radial = t.mesh.radial := rfl

@[simp] theorem growPivot_maxVertices :
    (t.growPivot p center radius frame).maxVertices = t.maxVertices := rfl

@[simp] theorem growPivot_vertexCount :
    (t.growPivot p center radius frame).mesh.vertexCount =
      t.mesh.vertexCount + t.mesh.radial :=
  grow_vertexCount t p center radius frame

end

omit [Scalar α] in
theorem frame?_of_lt {ring : Anchor} (hring : ring < t.frames.size) :
    t.frame? ring = some t.frames[ring] :=
  Array.getElem?_eq_getElem hring

/-- A segment that keeps to the direction of its ring grows one ring. -/
theorem add_of_aligned {ring : Anchor} {frame : RingFrame α} {s : Segment α}
    (hframe : t.frame? ring = some frame)
    (haligned : frame.isAlignedWith s.heading bendThreshold = true) :
    t.add s (some ring) =
      (t.grow ring s.stop (s.width * Scalar.half) (frame.transport s.heading),
        t.frames.size) := by
  simp only [add, root, Option.bind_some, hframe, Option.map_some, bend, haligned, if_true]
  rfl

/-- A segment that bends away from its ring grows a pivot, and a ring on it. -/
theorem add_of_bent {ring : Anchor} {frame : RingFrame α} {s : Segment α}
    (hframe : t.frame? ring = some frame)
    (hbent : frame.isAlignedWith s.heading bendThreshold = false) :
    t.add s (some ring) =
      let turned := frame.transport s.heading
      let t' := t.growPivot ring s.start (s.startWidth * Scalar.half) turned
      (t'.grow t.frames.size s.stop (s.width * Scalar.half) (turned.transport s.heading),
        t'.frames.size) := by
  simp only [add, root, Option.bind_some, hframe, Option.map_some, bend, hbent, Bool.false_eq_true,
    if_false]
  rfl

/-- A segment from a ring that is known grows one ring, or a pivot and a ring on it. -/
theorem add_of_known {ring : Anchor} (hring : ring < t.frames.size) (s : Segment α) :
    (∃ frame, t.add s (some ring) =
        (t.grow ring s.stop (s.width * Scalar.half) frame, t.frames.size)) ∨
      ∃ turned frame, t.add s (some ring) =
        let t' := t.growPivot ring s.start (s.startWidth * Scalar.half) turned
        (t'.grow t.frames.size s.stop (s.width * Scalar.half) frame, t'.frames.size) := by
  have hframe := frame?_of_lt hring
  cases haligned : t.frames[ring].isAlignedWith s.heading bendThreshold with
  | true => exact Or.inl ⟨_, add_of_aligned hframe haligned⟩
  | false => exact Or.inr ⟨_, _, add_of_bent hframe haligned⟩

/-- A segment is answered with its own ring, which is the last. -/
theorem add_answers_last {ring : Anchor} (hring : ring < t.frames.size) (s : Segment α) :
    (t.add s (some ring)).2 + 1 = (t.add s (some ring)).1.frames.size := by
  rcases add_of_known hring s with ⟨frame, hadd⟩ | ⟨turned, frame, hadd⟩
  · rw [hadd, grow_frames_size]
  · rw [hadd, grow_frames_size]

theorem frames_size_add {ring : Anchor} (hring : ring < t.frames.size) (s : Segment α) :
    t.frames.size < (t.add s (some ring)).1.frames.size ∧
      (t.add s (some ring)).1.frames.size ≤ t.frames.size + 2 := by
  rcases add_of_known hring s with ⟨frame, hadd⟩ | ⟨turned, frame, hadd⟩
  · rw [hadd, grow_frames_size]
    omega
  · rw [hadd, grow_frames_size, growPivot_frames_size]
    omega

variable {radial n : Nat}

theorem sound_begin (maxVertices : Nat) (turtle : Turtle α) :
    Sound (max radial 3) 0 ((empty radial maxVertices).begin turtle).1 where
  radial_eq := rfl
  frames := rfl
  rings := rfl
  pivots := le_refl _
  stitched := by
    refine ⟨[], Nat.succ_pos _, ?_, rfl, rfl, ?_⟩
    · simp [begin, pushRing, empty, length_ringPoints]
    · simp

theorem sound_grow (h : Sound radial n t) (hp : p < t.frames.size) :
    Sound radial (n + 1) (t.grow p center radius frame) where
  radial_eq := h.radial_eq
  frames := by
    rw [grow_frames_size, grow_rings, h.frames]
  rings := by
    rw [grow_rings, grow_pivots, h.rings]
    omega
  pivots := Nat.le_succ_of_le h.pivots
  stitched := by
    obtain ⟨pairs, hpairs⟩ := h.stitched
    exact ⟨_, stitchedBy_grow center radius frame hpairs h.frames (h.frames ▸ hp)⟩

/-- A pivot ring counts among the segments only with the ring that is put on it. -/
theorem sound_grow_growPivot (h : Sound radial n t) (hp : p < t.frames.size) (center' : Vec3 α)
    (radius' : α) (frame' : RingFrame α) :
    Sound radial (n + 1)
      ((t.growPivot p center radius frame).grow t.frames.size center' radius' frame') := by
  constructor
  · exact h.radial_eq
  · simp [h.frames]
  · rw [grow_rings, grow_pivots, growPivot_rings, growPivot_pivots, h.rings]
    omega
  · exact Nat.succ_le_succ h.pivots
  · obtain ⟨pairs, hpairs⟩ := h.stitched
    have hgrown := stitchedBy_grow center radius frame hpairs h.frames (h.frames ▸ hp)
    have hpivot : (t.growPivot p center radius frame).mesh.StitchedBy
        (pairs ++ [(p, t.mesh.rings)]) :=
      ⟨hgrown.rooted, hgrown.positions, hgrown.triangles, hgrown.children, hgrown.older⟩
    refine ⟨_, stitchedBy_grow center' radius' frame' hpivot ?_ ?_⟩
    · simp [h.frames]
    · simp [h.frames]

theorem sound_add (h : Sound radial n t) {ring : Anchor} (hring : ring < t.frames.size)
    (s : Segment α) : Sound radial (n + 1) (t.add s (some ring)).1 := by
  rcases add_of_known hring s with ⟨frame, hadd⟩ | ⟨turned, frame, hadd⟩
  · rw [hadd]
    exact sound_grow _ _ _ h hring
  · rw [hadd]
    exact sound_grow_growPivot _ _ _ h hring _ _ _

theorem upholds (radial : Nat) : (Builder.tube (α := α)).Upholds (Sound radial) Knows where
  sound := by
    rintro n t s origin h ⟨ring, rfl, hring⟩
    exact sound_add h hring s
  answers := by
    rintro n t s origin h ⟨ring, rfl, hring⟩
    exact ⟨_, rfl, add_answers_last hring s ▸ Nat.lt_succ_self _⟩
  remembers := by
    rintro n t s origin anchor h ⟨ring, rfl, hring⟩ ⟨ring', rfl, hring'⟩
    exact ⟨ring', rfl, hring'.trans (frames_size_add hring s).1⟩

theorem knows_begin (radial maxVertices : Nat) (turtle : Turtle α) :
    ((empty radial maxVertices).begin turtle).1.Knows
      (some ((empty radial maxVertices).begin turtle).2) :=
  ⟨0, rfl, Nat.one_pos⟩

end TubeBuilder

/-- Whatever the word, the tube that a walk builds has one root. -/
theorem Setting.tour_sound {S : Setting α (TubeBuilder α) σ} (hbuilder : S.builder = Builder.tube)
    {radial maxVertices : Nat} (hbuilt : S.built = TubeBuilder.empty radial maxVertices) :
    S.tour.walk.builder.Sound (max radial 3) S.tour.walk.segments := by
  obtain ⟨habit, builder, source, commands, built, chance⟩ := S
  subst hbuilder hbuilt
  exact (tour_upholds (TubeBuilder.upholds (max radial 3))
    (TubeBuilder.sound_begin maxVertices _)
    (TubeBuilder.knows_begin radial maxVertices _)).built

end PlantGrowth
