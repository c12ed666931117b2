import PlantGrowth.Proofs.OutputConsistency
import PlantGrowth.Proofs.TubeGroves

/-!
# Indices of 32 bits

The vertices of a mesh are counted in 32 bits, and so are its rings.  Here every number that a tube
builder computes on the way to an index is asked to fit, and every frame that it goes back to is
asked to be there.  As long as all vertices can be told apart by 32 bits, up to the last number
there is, nothing is found wanting, whoever drives the builder.
-/

namespace PlantGrowth

variable {α : Type} [Scalar α]

/-- The number, if it fits in 32 bits. -/
def word? (n : Nat) : Option Nat := if n < UInt32.size then some n else none

theorem word?_of_lt {n : Nat} (h : n < UInt32.size) : word? n = some n := if_pos h

theorem mapM_eq_some_map {β γ : Type} {l : List β} {f : β → Option γ} {g : β → γ}
    (h : ∀ x ∈ l, f x = some (g x)) : l.mapM f = some (l.map g) := by
  induction l with
  | nil => rfl
  | cons x l ih =>
      rw [List.mapM_cons, h x List.mem_cons_self, ih fun y hy => h y (List.mem_cons_of_mem x hy)]
      rfl

namespace TubeBuilder

/-! ## Steps that may fail -/

/-- The triangles at side `j` of a band between the rings that begin at the two vertices. -/
def side? (n first second j : Nat) : Option (List Triangle) := do
  let onward ← word? (j + 1)
  let next := onward % n
  let a ← word? (first + j)
  let b ← word? (first + next)
  let c ← word? (second + j)
  let d ← word? (second + next)
  return [⟨a, d, c⟩, ⟨a, b, d⟩]

def band? (n p q : Nat) : Option (List Triangle) := do
  let first ← word? (p * n)
  let second ← word? (q * n)
  let sides ← (List.range n).mapM (side? n first second)
  return sides.flatten

def stitch? (t : TubeBuilder α) (p q : Anchor) : Option (TubeBuilder α) := do
  let triangles ← band? t.mesh.radial p q
  return { t with mesh := { t.mesh with triangles := t.mesh.triangles ++ triangles.toArray } }

def pushRing? (t : TubeBuilder α) (center : Vec3 α) (radius : α) (frame : RingFrame α) :
    Option (TubeBuilder α × Anchor) := do
  let anchor ← word? t.frames.size
  return ((t.pushRing center radius frame).1, anchor)

/-- Puts a pivot ring behind ring `p`. -/
def pivot? (t : TubeBuilder α) (s : Segment α) (p : Anchor) (turned : RingFrame α) :
    Option (TubeBuilder α × Anchor) := do
  let (pushed, pivot) ← t.pushRing? s.start (s.startWidth * Scalar.half) turned
  let stitched ← pushed.stitch? p pivot
  return ({ stitched with mesh := { stitched.mesh with pivots := stitched.mesh.pivots + 1 } },
    pivot)

/-- Adds the ring at the end of a segment that grows from ring `p`. -/
def finish? (t : TubeBuilder α) (s : Segment α) (p : Anchor) : Option (TubeBuilder α × Anchor) := do
  let frame ← t.frame? p
  let (pushed, last) ← t.pushRing? s.stop (s.width * Scalar.half) (frame.transport s.heading)
  let stitched ← pushed.stitch? p last
  return (stitched, last)

/-- Adds a segment that grows from ring `p`, whose frame has to be there. -/
def extend? (t : TubeBuilder α) (s : Segment α) (p : Anchor) :
    Option (TubeBuilder α × Anchor) := do
  let previous ← t.frame? p
  if previous.isAlignedWith s.heading bendThreshold then t.finish? s p
  else
    let (bent, pivot) ← t.pivot? s p (previous.transport s.heading)
    bent.finish? s pivot

def add? (t : TubeBuilder α) (s : Segment α) (origin : Option Anchor) :
    Option (TubeBuilder α × Anchor) :=
  match origin.filter fun ring => (t.frame? ring).isSome with
  | some ring => t.extend? s ring
  | none => do
    let (pushed, root) ← t.pushRing? s.start (s.startWidth * Scalar.half)
      (RingFrame.initial s.orientation)
    pushed.extend? s root

/-- A call that fails if a number does not fit in 32 bits or a frame is not there. -/
def obey? (t : TubeBuilder α) : TubeCall α → Option (TubeBuilder α × Anchor)
  | .begin turtle =>
    t.pushRing? turtle.position (turtle.width * Scalar.half) (RingFrame.initial turtle.orientation)
  | .add s origin => t.add? s origin

/-! ## They do not fail -/

variable {t : TubeBuilder α} {n p q : Nat} {origin : Option Anchor} {s : Segment α}

theorem corner_lt_size (hp : (p + 1) * n ≤ UInt32.size) {j : Nat} (hj : j < n) :
    p * n + j < UInt32.size := by
  rw [Nat.succ_mul] at hp
  omega

theorem side?_eq (hn : n < UInt32.size) (hp : (p + 1) * n ≤ UInt32.size)
    (hq : (q + 1) * n ≤ UInt32.size) {j : Nat} (hj : j < n) :
    side? n (p * n) (q * n) j =
      some [⟨p * n + j, q * n + (j + 1) % n, q * n + j⟩,
        ⟨p * n + j, p * n + (j + 1) % n, q * n + (j + 1) % n⟩] := by
  have hnext : (j + 1) % n < n := Nat.mod_lt _ (Nat.zero_lt_of_lt hj)
  have honward : j + 1 < UInt32.size := by omega
  simp [side?, word?_of_lt, honward, corner_lt_size hp hj, corner_lt_size hp hnext,
    corner_lt_size hq hj, corner_lt_size hq hnext]

theorem band?_eq (hn : n < UInt32.size) (hpos : 0 < n) (hp : (p + 1) * n ≤ UInt32.size)
    (hq : (q + 1) * n ≤ UInt32.size) : band? n p q = some (band n p q) := by
  have hfirst : p * n < UInt32.size := corner_lt_size hp hpos
  have hsecond : q * n < UInt32.size := corner_lt_size hq hpos
  have hsides := mapM_eq_some_map fun j hj => side?_eq hn hp hq (List.mem_range.mp hj)
  simp only [band?, word?_of_lt hfirst, word?_of_lt hsecond, hsides, Option.bind_eq_bind,
    Option.bind_some, Option.pure_def, band, List.flatMap]

/-- The vertices of so many rings of `n` can be told apart by 32 bits. -/
structure Fits (n rings : Nat) : Prop where
  three : 3 ≤ n
  radial : n < UInt32.size
  vertices : rings * n ≤ UInt32.size

theorem Fits.mono {rings rings' : Nat} (h : Fits n rings) (hle : rings' ≤ rings) : Fits n rings' :=
  ⟨h.three, h.radial, (Nat.mul_le_mul_right n hle).trans h.vertices⟩

omit [Scalar α] in
theorem stitch?_eq {rings : Nat} (h : Fits t.mesh.radial rings) (hp : p < rings) (hq : q < rings) :
    t.stitch? p q = some (t.stitch p q) := by
  have hband := band?_eq h.radial (Nat.zero_lt_of_lt h.three) (h.mono hp).vertices
    (h.mono hq).vertices
  simp only [stitch?, hband, Option.bind_eq_bind, Option.bind_some, Option.pure_def]
  rfl

theorem pushRing?_eq (h : Fits t.mesh.radial (t.frames.size + 1)) (center : Vec3 α) (radius : α)
    (frame : RingFrame α) :
    t.pushRing? center radius frame = some (t.pushRing center radius frame) := by
  have hring : t.frames.size < UInt32.size := by
    have hthree : (t.frames.size + 1) * 3 ≤ UInt32.size :=
      (Nat.mul_le_mul_left _ h.three).trans h.vertices
    omega
  simp only [pushRing?, word?_of_lt hring, Option.bind_eq_bind, Option.bind_some, Option.pure_def]
  rfl

/-- The new ring is stitched to a ring that was there. -/
theorem stitch?_pushRing (h : Fits t.mesh.radial (t.frames.size + 1)) (hp : p < t.frames.size)
    (center : Vec3 α) (radius : α) (frame : RingFrame α) :
    (t.pushRing center radius frame).1.stitch? p t.frames.size =
      some (t.grow p center radius frame) :=
  stitch?_eq (t := (t.pushRing center radius frame).1) h (Nat.lt_succ_of_lt hp)
    (Nat.lt_succ_self _)

theorem pivot?_eq (h : Fits t.mesh.radial (t.frames.size + 1)) (hp : p < t.frames.size)
    (turned : RingFrame α) :
    t.pivot? s p turned =
      some (t.growPivot p s.start (s.startWidth * Scalar.half) turned, t.frames.size) := by
  have hstitched := stitch?_pushRing h hp s.start (s.startWidth * Scalar.half) turned
  have hanchor : (t.pushRing s.start (s.startWidth * Scalar.half) turned).2 = t.frames.size := rfl
  simp only [pivot?, pushRing?_eq h, hanchor, hstitched, Option.bind_eq_bind, Option.bind_some,
    Option.pure_def]
  rfl

theorem finish?_eq {frame : RingFrame α} (h : Fits t.mesh.radial (t.frames.size + 1))
    (hframe : t.frame? p = some frame) (hp : p < t.frames.size) :
    t.finish? s p =
      some (t.grow p s.stop (s.width * Scalar.half) (frame.transport s.heading),
        t.frames.size) := by
  have hstitched := stitch?_pushRing h hp s.stop (s.width * Scalar.half)
    (frame.transport s.heading)
  have hanchor : (t.pushRing s.stop (s.width * Scalar.half) (frame.transport s.heading)).2 =
    t.frames.size := rfl
  simp only [finish?, hframe, pushRing?_eq h, hanchor, hstitched, Option.bind_eq_bind,
    Option.bind_some, Option.pure_def]

theorem frame?_growPivot (t : TubeBuilder α) (p : Anchor) (center : Vec3 α) (radius : α)
    (frame : RingFrame α) :
    (t.growPivot p center radius frame).frame? t.frames.size = some frame :=
  t.frame?_pushRing center radius frame

theorem extend?_eq (hp : p < t.frames.size)
    (h : Fits t.mesh.radial (t.add s (some p)).1.frames.size) :
    t.extend? s p = some (t.add s (some p)) := by
  have hframe := frame?_of_lt hp
  cases haligned : t.frames[p].isAlignedWith s.heading bendThreshold with
  | true =>
      rw [add_of_aligned hframe haligned] at h ⊢
      rw [grow_frames_size] at h
      simp only [extend?, hframe, haligned, Option.bind_eq_bind, Option.bind_some, if_true,
        finish?_eq h hframe hp]
  | false =>
      rw [add_of_bent hframe haligned] at h ⊢
      simp only [grow_frames_size, growPivot_frames_size] at h
      have hpivot := pivot?_eq (s := s) (h.mono (Nat.le_succ _)) hp
        (t.frames[p].transport s.heading)
      set bent := t.growPivot p s.start (s.startWidth * Scalar.half)
        (t.frames[p].transport s.heading)
      -- The end is put on the pivot, whose frame is the last one now.
      have hsize : bent.frames.size = t.frames.size + 1 := growPivot_frames_size t p _ _ _
      have hroom : Fits bent.mesh.radial (bent.frames.size + 1) := hsize ▸ h
      have hfinish := finish?_eq (s := s) hroom (t.frame?_growPivot p _ _ _)
        (hsize ▸ Nat.lt_succ_self _)
      simp only [extend?, hframe, haligned, hpivot, hfinish, Option.bind_eq_bind,
        Option.bind_some, Bool.false_eq_true, if_false]
      rfl

theorem add?_of_unknown (hunknown : ¬ t.Knows origin)
    (h : Fits t.mesh.radial (t.add s origin).1.frames.size) :
    t.add? s origin = some (t.add s origin) := by
  have hdropped : origin.filter (fun ring => (t.frame? ring).isSome) = none := by
    cases origin with
    | none => rfl
    | some ring => simp [frame?_of_unknown hunknown]
  rw [add_of_unknown hunknown] at h ⊢
  have hroot := t.lt_frames_size_rootAt s
  have hsize := frames_size_add hroot s
  have hpushed := pushRing?_eq (h.mono (by omega)) s.start (s.startWidth * Scalar.half)
    (RingFrame.initial s.orientation)
  have hextended := extend?_eq (s := s) hroot h
  simp only [add?, hdropped, hpushed, Option.bind_eq_bind, Option.bind_some]
  exact hextended

/-- A call succeeds if the vertices that there are behind it can be told apart. -/
theorem obey?_eq (call : TubeCall α) (h : Fits t.mesh.radial (t.obey call).1.frames.size) :
    t.obey? call = some (t.obey call) := by
  cases call with
  | begin turtle =>
      have hsize : (t.obey (.begin turtle)).1.frames.size = t.frames.size + 1 :=
        pushRing_frames_size t _ _ _
      rw [hsize] at h
      exact pushRing?_eq h _ _ _
  | add s origin =>
      by_cases hknown : t.Knows origin
      · obtain ⟨ring, rfl, hring⟩ := hknown
        have hkept : (some ring).filter (fun ring => (t.frame? ring).isSome) = some ring := by
          simp [frame?_of_lt hring]
        simp only [obey?, add?, hkept]
        exact extend?_eq hring h
      · exact add?_of_unknown hknown h

/-! ## Any driver -/

omit [Scalar α] in
theorem grove_empty (radial maxVertices : Nat) :
    (empty radial maxVertices : TubeBuilder α).Grove (max radial 3) 0 0 := by
  constructor <;> simp [empty, TubeMesh.vertexCount, TubeMesh.triangleCount, TubeMesh.indices]

/-- How many vertices there can be is known from the calls alone. -/
theorem vertexCount_after_le (radial maxVertices : Nat) (calls : List (TubeCall α)) :
    ((empty radial maxVertices).after calls).mesh.vertexCount ≤
      (calls.map TubeCall.maxRings).sum * max radial 3 := by
  have hgrove := (grove_empty radial maxVertices).after calls
  have hframes : ((empty radial maxVertices).after calls).frames.size ≤
      (calls.map TubeCall.maxRings).sum :=
    (frames_size_after _ calls).2.trans_eq (Nat.zero_add _)
  rw [hgrove.vertices, ← hgrove.frames]
  exact Nat.mul_le_mul_right _ hframes

/-- Whichever calls a driver makes, in whichever order and with whichever anchors: while 32 bits
tell the vertices apart, every call succeeds and leaves buffers that fit together. -/
theorem sound_for_any_driver (radial : UInt32) (maxVertices : Nat) (calls : List (TubeCall α))
    (hfits : ((empty radial.toNat maxVertices).after calls).mesh.vertexCount ≤ UInt32.size) :
    ∀ front call back, calls = front ++ call :: back →
      let n := max radial.toNat 3
      let start := empty radial.toNat maxVertices
      let roots := start.rootCount (front ++ [call])
      let adds := (front ++ [call]).countP TubeCall.isAdd
      let t := ((start.after front).obey call).1
      let last := ((start.after front).obey call).2
      (start.after front).obey? call = some (t, last) ∧
        t.frames.size = t.mesh.rings ∧
        (t.mesh.positions.toList.flatMap Vec3.coordinates).length = t.mesh.rings * (3 * n) ∧
        (∀ i ∈ t.mesh.indices, i < t.mesh.vertexCount) ∧
        last + 1 = t.mesh.rings ∧ (t.frame? last).isSome ∧
        t.mesh.triangleCount = 2 * n * (t.mesh.rings - roots) ∧
        t.mesh.rings = roots + adds + t.mesh.pivots := by
  rintro front call back rfl n start roots adds t last
  have hbefore : (start.after front).Grove n (0 + start.rootCount front)
      (0 + front.countP TubeCall.isAdd) := (grove_empty _ _).after front
  have ht : start.after (front ++ [call]) = t := List.foldl_append
  have hgrove : t.Grove n (0 + roots) (0 + adds) := ht ▸ (grove_empty _ _).after _
  have hlast : last + 1 = t.frames.size := (start.after front).obey_answers_last call
  have hall : start.after (front ++ call :: back) = t.after back := List.foldl_append
  -- Rings never go away, so it is enough that the last builder has room for all of its vertices.
  have hfewer : t.frames.size ≤ (start.after (front ++ call :: back)).frames.size :=
    hall ▸ (frames_size_after t back).1
  have hroom : Fits n (start.after (front ++ call :: back)).frames.size := by
    refine ⟨Nat.le_max_right _ _, Nat.max_lt.mpr ⟨radial.toNat_lt_size, by decide⟩, ?_⟩
    have hwhole := (grove_empty radial.toNat maxVertices).after (front ++ call :: back)
    rwa [hwhole.frames, ← hwhole.vertices]
  rw [Nat.zero_add, Nat.zero_add] at hgrove
  refine ⟨obey?_eq call (hbefore.radial ▸ hroom.mono hfewer), hgrove.frames, ?_,
    hgrove.indices, hlast.trans hgrove.frames, ?_, ?_, hgrove.rings⟩
  · have hvertices : t.mesh.positions.toList.length = t.mesh.rings * n :=
      Array.length_toList.trans hgrove.vertices
    rw [Vec3.length_flatMap_coordinates, hvertices, Nat.mul_left_comm]
  · rw [frame?_of_lt (hlast ▸ Nat.lt_succ_self last), Option.isSome_some]
  · rw [hgrove.triangles, hgrove.rings]
    congr 1
    omega

/-- Four rings of `2 ^ 30` vertices use up all numbers, and a root, a root, a pivot and an end are
four: the second call names a ring that there is none of. -/
theorem sound_for_any_driver_no_number_left :
    let segment : Segment Float32 := ⟨Vec3.zero, Vec3.zero, Rotation.identity, 1, 1, 1, 1⟩
    let calls := [.begin (Turtle.atOrigin 1 1), .add segment (some 7)]
    let before : TubeBuilder Float32 :=
      (empty 1073741824 0).after [.begin (Turtle.atOrigin 1 1)]
    ((empty 1073741824 0).after calls).mesh.vertexCount ≤ UInt32.size ∧
      before.obey? (.add segment (some 7)) = some (before.obey (.add segment (some 7))) ∧
      (before.obey (.add segment (some 7))).1.mesh.rings =
        2 + 1 + (before.obey (.add segment (some 7))).1.mesh.pivots := by
  intro segment calls before
  have hfits : ((empty (1073741824 : UInt32).toNat 0).after calls).mesh.vertexCount ≤
    UInt32.size := (vertexCount_after_le _ _ _).trans (by decide)
  have hsound := sound_for_any_driver 1073741824 0 calls hfits [.begin (Turtle.atOrigin 1 1)]
    (.add segment (some 7)) [] rfl
  exact ⟨hfits, hsound.1, hsound.2.2.2.2.2.2.2⟩

end TubeBuilder

end PlantGrowth
