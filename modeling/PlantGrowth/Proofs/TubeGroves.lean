import PlantGrowth.Proofs.TubeRings

/-!
# Tubes for any driver

A walk only gives a tube builder the anchors that the builder has answered with.  A driver of
another kind may begin again and again, go back to any ring, or name a ring that there is none of;
each such call begins a tube of its own.  What is built is then a grove: every ring is the root of a
tube, the end of a segment or a pivot, all but the roots are stitched to a ring before them, and no
triangle has a corner outside the vertices.
-/

namespace PlantGrowth

variable {α : Type} [Scalar α]

/-- What a driver asks a tube builder for. -/
inductive TubeCall (α : Type) where
  | begin (turtle : Turtle α)
  | add (segment : Segment α) (origin : Option Anchor)

def TubeCall.isAdd : TubeCall α → Bool
  | .begin _ => false
  | .add _ _ => true

/-- A segment may need a root and a pivot besides its own ring. -/
def TubeCall.maxRings : TubeCall α → Nat
  | .begin _ => 1
  | .add _ _ => 3

namespace TubeBuilder

/-- The builder after a call, and the ring that it answers with. -/
def obey (t : TubeBuilder α) : TubeCall α → TubeBuilder α × Anchor
  | .begin turtle => t.begin turtle
  | .add s origin => t.add s origin

def after (t : TubeBuilder α) (calls : List (TubeCall α)) : TubeBuilder α :=
  calls.foldl (fun t call => (t.obey call).1) t

/-- Whether the call makes a new root: it begins a plant, or names no ring that is there. -/
def startsTube (t : TubeBuilder α) : TubeCall α → Bool
  | .begin _ => true
  | .add _ origin => origin.all fun ring => t.frames.size ≤ ring

/-- How many of the calls make a new root. -/
def rootCount (t : TubeBuilder α) : List (TubeCall α) → Nat
  | [] => 0
  | call :: calls => (t.startsTube call).toNat + rootCount (t.obey call).1 calls

/-- What holds of rings of `n` vertices with so many roots and segments. -/
structure Grove (n roots adds : Nat) (t : TubeBuilder α) : Prop where
  radial : t.mesh.radial = n
  frames : t.frames.size = t.mesh.rings
  vertices : t.mesh.vertexCount = t.mesh.rings * n
  rings : t.mesh.rings = roots + adds + t.mesh.pivots
  triangles : t.mesh.triangleCount = 2 * n * (adds + t.mesh.pivots)
  indices : ∀ i ∈ t.mesh.indices, i < t.mesh.vertexCount

/-! ## Single rings -/

section

variable (t : TubeBuilder α) (p : Anchor) (center : Vec3 α) (radius : α) (frame : RingFrame α)

@[simp] theorem pushRing_frames_size :
    (t.pushRing center radius frame).1.frames.size = t.frames.size + 1 :=
  Array.size_push _

@[simp] theorem pushRing_vertexCount :
    (t.pushRing center radius frame).1.mesh.vertexCount = t.mesh.vertexCount + t.mesh.radial := by
  simp [pushRing, TubeMesh.vertexCount, length_ringPoints]

theorem frame?_pushRing :
    (t.pushRing center radius frame).1.frame? t.frames.size = some frame :=
  Array.getElem?_push_size

theorem indices_grow :
    (t.grow p center radius frame).mesh.indices =
      t.mesh.indices ++ (band t.mesh.radial p t.frames.size).flatMap Triangle.corners := by
  simp [TubeMesh.indices, grow, stitch, pushRing]

theorem triangleCount_grow :
    (t.grow p center radius frame).mesh.triangleCount =
      t.mesh.triangleCount + 2 * t.mesh.radial := by
  simp [TubeMesh.triangleCount, grow, stitch, pushRing, band, Nat.mul_comm]

end

/-- A band has its corners on its two rings. -/
theorem corner_band_lt {n p q rings i : Nat} (hp : p < rings) (hq : q < rings)
    (hi : i ∈ (band n p q).flatMap Triangle.corners) : i < rings * n := by
  have hring : ∀ {r j : Nat}, r < rings → j < n → r * n + j < rings * n := by
    intro r j hr hj
    calc r * n + j < r * n + n := Nat.add_lt_add_left hj _
      _ = (r + 1) * n := (Nat.succ_mul r n).symm
      _ ≤ rings * n := Nat.mul_le_mul_right n hr
  simp only [band, List.mem_flatMap, List.mem_range] at hi
  obtain ⟨triangle, ⟨j, hj, htriangle⟩, hcorner⟩ := hi
  have hnext : (j + 1) % n < n := Nat.mod_lt _ (Nat.zero_lt_of_lt hj)
  simp only [List.mem_cons, List.not_mem_nil, or_false] at htriangle
  rcases htriangle with rfl | rfl
  · simp only [Triangle.corners, List.mem_cons, List.not_mem_nil, or_false] at hcorner
    rcases hcorner with rfl | rfl | rfl
    · exact hring hp hj
    · exact hring hq hnext
    · exact hring hq hj
  · simp only [Triangle.corners, List.mem_cons, List.not_mem_nil, or_false] at hcorner
    rcases hcorner with rfl | rfl | rfl
    · exact hring hp hj
    · exact hring hp hnext
    · exact hring hq hnext

variable {t : TubeBuilder α} {origin : Option Anchor} {n roots adds : Nat} {p : Anchor}

omit [Scalar α] in
theorem startsTube_add_iff (s : Segment α) :
    t.startsTube (.add s origin) = true ↔ ¬ t.Knows origin := by
  cases origin with
  | none => simp [startsTube, Knows]
  | some ring => simp [startsTube, Knows]

omit [Scalar α] in
theorem frame?_of_unknown {ring : Anchor} (hunknown : ¬ t.Knows (some ring)) :
    t.frame? ring = none :=
  Array.getElem?_eq_none (Nat.le_of_not_lt fun hring => hunknown ⟨ring, rfl, hring⟩)

/-- The builder with a root where the segment starts. -/
def rootAt (t : TubeBuilder α) (s : Segment α) : TubeBuilder α :=
  (t.pushRing s.start (s.startWidth * Scalar.half) (RingFrame.initial s.orientation)).1

@[simp] theorem rootAt_frames_size (t : TubeBuilder α) (s : Segment α) :
    (t.rootAt s).frames.size = t.frames.size + 1 :=
  pushRing_frames_size t _ _ _

theorem lt_frames_size_rootAt (t : TubeBuilder α) (s : Segment α) :
    t.frames.size < (t.rootAt s).frames.size :=
  t.rootAt_frames_size s ▸ Nat.lt_succ_self _

/-- A segment from nowhere grows from a root of its own. -/
theorem add_of_unknown (hunknown : ¬ t.Knows origin) (s : Segment α) :
    t.add s origin = (t.rootAt s).add s (some t.frames.size) := by
  have hnone : (origin.bind fun anchor => (t.frame? anchor).map fun frame => (anchor, frame)) =
      none := by
    cases origin with
    | none => rfl
    | some ring => simp [frame?_of_unknown hunknown]
  have hroot : (t.rootAt s).frame? t.frames.size = some (RingFrame.initial s.orientation) :=
    frame?_pushRing t _ _ _
  simp only [add, root, hnone, hroot, Option.bind_some, Option.map_some]
  rfl

/-! ## Rings by the call -/

theorem frames_size_obey (t : TubeBuilder α) (call : TubeCall α) :
    t.frames.size < (t.obey call).1.frames.size ∧
      (t.obey call).1.frames.size ≤ t.frames.size + call.maxRings := by
  cases call with
  | begin turtle =>
      have hsize : (t.obey (.begin turtle)).1.frames.size = t.frames.size + 1 :=
        pushRing_frames_size t _ _ _
      rw [hsize, TubeCall.maxRings]
      omega
  | add s origin =>
      rw [obey, TubeCall.maxRings]
      by_cases hknown : t.Knows origin
      · obtain ⟨ring, rfl, hring⟩ := hknown
        have hsize := frames_size_add hring s
        omega
      · have hsize := frames_size_add (t.lt_frames_size_rootAt s) s
        rw [rootAt_frames_size] at hsize
        rw [add_of_unknown hknown]
        omega

/-- Every call is answered with the ring that comes last. -/
theorem obey_answers_last (t : TubeBuilder α) (call : TubeCall α) :
    (t.obey call).2 + 1 = (t.obey call).1.frames.size := by
  cases call with
  | begin turtle => exact (pushRing_frames_size t _ _ _).symm
  | add s origin =>
      by_cases hknown : t.Knows origin
      · obtain ⟨ring, rfl, hring⟩ := hknown
        exact add_answers_last hring s
      · rw [obey, add_of_unknown hknown]
        exact add_answers_last (t.lt_frames_size_rootAt s) s

theorem frames_size_after (t : TubeBuilder α) (calls : List (TubeCall α)) :
    t.frames.size ≤ (t.after calls).frames.size ∧
      (t.after calls).frames.size ≤ t.frames.size + (calls.map TubeCall.maxRings).sum := by
  induction calls generalizing t with
  | nil => simp [after]
  | cons call calls ih =>
      have hstep := t.frames_size_obey call
      have hrest := ih (t.obey call).1
      have hafter : t.after (call :: calls) = (t.obey call).1.after calls := rfl
      rw [hafter, List.map_cons, List.sum_cons]
      omega

/-! ## Roots, segments and pivots -/

namespace Grove

variable {center : Vec3 α} {radius : α} {frame : RingFrame α}

theorem pushRing (h : t.Grove n roots adds) (center : Vec3 α) (radius : α) (frame : RingFrame α) :
    (t.pushRing center radius frame).1.Grove n (roots + 1) adds where
  radial := h.radial
  frames := (pushRing_frames_size t center radius frame).trans (congrArg (· + 1) h.frames)
  vertices := by
    have hrings : (t.pushRing center radius frame).1.mesh.rings = t.mesh.rings + 1 := rfl
    rw [pushRing_vertexCount, h.vertices, h.radial, hrings, Nat.succ_mul]
  rings := by
    have hrings := h.rings
    simp only [TubeBuilder.pushRing]
    omega
  triangles := h.triangles
  indices := by
    intro i hi
    rw [pushRing_vertexCount]
    exact (h.indices i hi).trans_le (Nat.le_add_right _ _)

theorem grow (h : t.Grove n roots adds) (hp : p < t.frames.size) (center : Vec3 α) (radius : α)
    (frame : RingFrame α) : (t.grow p center radius frame).Grove n roots (adds + 1) where
  radial := h.radial
  frames := by
    rw [grow_frames_size, grow_rings, h.frames]
  vertices := by
    rw [grow_vertexCount, grow_rings, h.vertices, h.radial, Nat.succ_mul]
  rings := by
    rw [grow_rings, grow_pivots, h.rings]
    omega
  triangles := by
    rw [triangleCount_grow, h.triangles, h.radial, grow_pivots, Nat.add_right_comm, Nat.mul_succ]
  indices := by
    intro i hi
    rw [indices_grow, List.mem_append] at hi
    rw [grow_vertexCount]
    rcases hi with hi | hi
    · exact (h.indices i hi).trans_le (Nat.le_add_right _ _)
    · have hlt := corner_band_lt (Nat.lt_succ_of_lt hp) (Nat.lt_succ_self _) hi
      rwa [h.radial, h.frames, Nat.succ_mul, ← h.vertices, ← h.radial] at hlt

theorem growPivot (h : t.Grove n roots adds) (hp : p < t.frames.size) (center : Vec3 α)
    (radius : α) (frame : RingFrame α) :
    (t.growPivot p center radius frame).Grove n roots adds where
  radial := h.radial
  frames := (h.grow hp center radius frame).frames
  vertices := (h.grow hp center radius frame).vertices
  rings := by
    rw [growPivot_rings, growPivot_pivots, h.rings]
    omega
  triangles := by
    rw [growPivot_pivots, ← Nat.add_assoc, Nat.add_right_comm]
    exact (h.grow hp center radius frame).triangles
  indices := (h.grow hp center radius frame).indices

theorem add_of_known (h : t.Grove n roots adds) (hp : p < t.frames.size) (s : Segment α) :
    (t.add s (some p)).1.Grove n roots (adds + 1) := by
  rcases TubeBuilder.add_of_known hp s with ⟨frame, hadd⟩ | ⟨turned, frame, hadd⟩
  · rw [hadd]
    exact h.grow hp _ _ _
  · rw [hadd]
    refine (h.growPivot hp _ _ _).grow ?_ _ _ _
    rw [growPivot_frames_size]
    exact Nat.lt_succ_self _

/-- One call adds a root, a segment or both. -/
theorem obey (h : t.Grove n roots adds) (call : TubeCall α) :
    (t.obey call).1.Grove n (roots + (t.startsTube call).toNat) (adds + call.isAdd.toNat) := by
  cases call with
  | begin turtle => exact h.pushRing _ _ _
  | add s origin =>
      by_cases hknown : t.Knows origin
      · have hnot : t.startsTube (.add s origin) = false :=
          Bool.eq_false_iff.mpr fun hstarts => (startsTube_add_iff s).mp hstarts hknown
        obtain ⟨ring, rfl, hring⟩ := hknown
        rw [hnot]
        exact h.add_of_known hring s
      · rw [(startsTube_add_iff s).mpr hknown, TubeBuilder.obey, add_of_unknown hknown]
        exact (h.pushRing _ _ _).add_of_known (t.lt_frames_size_rootAt s) s

theorem after (h : t.Grove n roots adds) (calls : List (TubeCall α)) :
    (t.after calls).Grove n (roots + t.rootCount calls) (adds + calls.countP TubeCall.isAdd) := by
  induction calls generalizing t roots adds with
  | nil => exact h
  | cons call calls ih =>
      have hadds : (call :: calls).countP TubeCall.isAdd =
          call.isAdd.toNat + calls.countP TubeCall.isAdd := by
        rw [List.countP_cons, Nat.add_comm]
        cases call.isAdd <;> rfl
      rw [rootCount, hadds, ← Nat.add_assoc, ← Nat.add_assoc]
      exact ih (h.obey call)

end Grove

end TubeBuilder

end PlantGrowth
