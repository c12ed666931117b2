import PlantGrowth.Proofs.NumberOrder
import PlantGrowth.Proofs.SegmentTree
import Mathlib.Data.Fintype.Defs

/-!
# Extents

The walk hands the box only the origin and the ends of its segments.  Each face of the box lies at
the outermost of what it has been handed, and which of several equal ones that is does not show in
a comparison, so the box does not depend on the order.  It holds the rest of the plant because a
segment or a leaf begins at the end of an earlier segment or at the origin.
-/

namespace PlantGrowth

open Scalar

variable {α β σ : Type}

inductive Coordinate where
  | x
  | y
  | z
  deriving DecidableEq

instance : Fintype Coordinate := ⟨{.x, .y, .z}, by intro c; cases c <;> simp⟩

/-- The two faces that a box has across each coordinate. -/
inductive Side where
  | low
  | high

def Vec3.at (p : Vec3 α) : Coordinate → α
  | .x => p.x
  | .y => p.y
  | .z => p.z

theorem Vec3.ext_at {p q : Vec3 α} (h : ∀ c, p.at c = q.at c) : p = q := by
  cases p
  cases q
  simp only [Vec3.mk.injEq]
  exact ⟨h .x, h .y, h .z⟩

def Bounds.face (b : Bounds α) (side : Side) (c : Coordinate) : α :=
  match side with
  | .low => b.min.at c
  | .high => b.max.at c

theorem Bounds.ext_face {b b' : Bounds α} (h : ∀ side c, b.face side c = b'.face side c) :
    b = b' := by
  cases b
  cases b'
  simp only [Bounds.mk.injEq]
  exact ⟨Vec3.ext_at (h .low), Vec3.ext_at (h .high)⟩

variable [Scalar α]

namespace Side

def pick : Side → α → α → α
  | .low => lesser
  | .high => greater

/-- Whether `a` is a number at least as far out as the number `b`. -/
def Beyond : Side → α → α → Prop
  | .low, a, b => le a b = true
  | .high, a, b => le b a = true

instance (side : Side) (a b : α) : Decidable (side.Beyond a b) :=
  match side with
  | .low => inferInstanceAs (Decidable (le a b = true))
  | .high => inferInstanceAs (Decidable (le b a = true))

/-- `a` is one of the values and at least as far out as every number among them. -/
structure Outermost (side : Side) (values : List α) (a : α) : Prop where
  mem : a ∈ values
  beyond : ∀ b ∈ values, IsNumber b → side.Beyond a b

variable {side : Side} {values values' : List α} {a a' b c : α}

theorem alike_of_beyond (hab : side.Beyond a b) (hba : side.Beyond b a) : Alike a b := by
  cases side with
  | low => exact Or.inl ⟨hab, hba⟩
  | high => exact Or.inl ⟨hba, hab⟩

theorem beyond_refl (ha : IsNumber a) : side.Beyond a a := by
  cases side <;> exact ha

theorem outermost_singleton (a : α) : side.Outermost [a] a := by
  refine ⟨List.mem_singleton_self a, ?_⟩
  rw [List.forall_mem_singleton]
  exact beyond_refl

variable [LawfulOrder α]

theorem Beyond.number (h : side.Beyond a b) : IsNumber a ∧ IsNumber b := by
  cases side with
  | low => exact LawfulOrder.number_of_le a b h
  | high => exact (LawfulOrder.number_of_le b a h).symm

theorem Beyond.trans (hab : side.Beyond a b) (hbc : side.Beyond b c) : side.Beyond a c := by
  cases side with
  | low => exact LawfulOrder.le_trans a b c hab hbc
  | high => exact LawfulOrder.le_trans c b a hbc hab

theorem beyond_total (ha : IsNumber a) (hb : IsNumber b) : side.Beyond a b ∨ side.Beyond b a := by
  cases side with
  | low => exact LawfulOrder.le_total a b ha hb
  | high => exact LawfulOrder.le_total b a hb ha

theorem pick_eq (side : Side) (a b : α) :
    side.pick a b = if IsNumber a ∧ (side.Beyond a b ∨ ¬IsNumber b) then a else b := by
  cases side with
  | low => exact LawfulOrder.lesser_eq a b
  | high => exact LawfulOrder.greater_eq a b

theorem pick_cases (side : Side) (a b : α) :
    side.pick a b = a ∧ (IsNumber b → side.Beyond a b) ∨
      side.pick a b = b ∧ (IsNumber a → side.Beyond b a) := by
  rw [pick_eq]
  by_cases ha : IsNumber a
  · by_cases hb : IsNumber b
    · by_cases hab : side.Beyond a b
      · simp [ha, hab]
      · simp [ha, hb, hab, (beyond_total ha hb).resolve_left hab]
    · simp [ha, hb]
  · simp [ha]

theorem Outermost.pick (h : side.Outermost values a) (b : α) :
    side.Outermost (values ++ [b]) (side.pick a b) := by
  rcases side.pick_cases a b with ⟨heq, hb⟩ | ⟨heq, ha⟩
  · rw [heq]
    refine ⟨List.mem_append_left _ h.mem, ?_⟩
    rw [List.forall_mem_append, List.forall_mem_singleton]
    exact ⟨h.beyond, hb⟩
  · rw [heq]
    refine ⟨List.mem_append_right _ (List.mem_singleton_self b), ?_⟩
    rw [List.forall_mem_append, List.forall_mem_singleton]
    refine ⟨?_, beyond_refl⟩
    intro c hc hnumber
    have hac := h.beyond c hc hnumber
    exact (ha hac.number.1).trans hac

/-- What is outermost depends on the values alone, however they are listed. -/
theorem Outermost.alike (h : side.Outermost values a) (h' : side.Outermost values' a')
    (hsame : ∀ b, b ∈ values ↔ b ∈ values') : Alike a a' := by
  have ha := fun hnumber => h'.beyond a ((hsame a).mp h.mem) hnumber
  have ha' := fun hnumber => h.beyond a' ((hsame a').mpr h'.mem) hnumber
  by_cases hnumber : IsNumber a
  · have hbeyond := ha hnumber
    exact alike_of_beyond (ha' hbeyond.number.1) hbeyond
  · refine Or.inr ⟨hnumber, ?_⟩
    intro hnumber'
    exact hnumber (ha' hnumber').number.1

end Side

/-! ## Boxes of points -/

namespace Bounds

def Alike (b b' : Bounds α) : Prop := ∀ side c, Scalar.Alike (b.face side c) (b'.face side c)

/-- Each face lies where the outermost of the points does. -/
def Fits (b : Bounds α) (points : List (Vec3 α)) : Prop :=
  ∀ (side : Side) (c : Coordinate), side.Outermost (points.map fun p => p.at c) (b.face side c)

structure Contains (b : Bounds α) (p : Vec3 α) : Prop where
  low : ∀ c, le (b.min.at c) (p.at c) = true
  high : ∀ c, le (p.at c) (b.max.at c) = true

variable {b b' : Bounds α} {points points' : List (Vec3 α)} {p : Vec3 α}

theorem face_insert (b : Bounds α) (p : Vec3 α) (side : Side) (c : Coordinate) :
    (b.insert p).face side c = side.pick (b.face side c) (p.at c) := by
  cases side <;> cases c <;> rfl

theorem fits_ofPoint (p : Vec3 α) : (ofPoint p).Fits [p] := by
  intro side c
  cases side <;> exact Side.outermost_singleton (p.at c)

theorem Fits.contains (h : b.Fits points) (hp : p ∈ points) (hnumber : ∀ c, IsNumber (p.at c)) :
    b.Contains p := by
  have hmem : ∀ c, p.at c ∈ points.map fun q => q.at c := fun c => List.mem_map.mpr ⟨p, hp, rfl⟩
  constructor
  · intro c
    exact (h .low c).beyond _ (hmem c) (hnumber c)
  · intro c
    exact (h .high c).beyond _ (hmem c) (hnumber c)

theorem Fits.attained (h : b.Fits points) (side : Side) (c : Coordinate) :
    ∃ p ∈ points, b.face side c = p.at c := by
  obtain ⟨p, hp, heq⟩ := List.mem_map.mp (h side c).mem
  exact ⟨p, hp, heq.symm⟩

section

variable [LawfulOrder α]

theorem Fits.insert (h : b.Fits points) (p : Vec3 α) : (b.insert p).Fits (points ++ [p]) := by
  intro side c
  rw [face_insert, List.map_append]
  exact (h side c).pick (p.at c)

theorem Fits.foldl (h : b.Fits points) (more : List (Vec3 α)) :
    (more.foldl Bounds.insert b).Fits (points ++ more) := by
  induction more generalizing b points with
  | nil => simpa using h
  | cons p more ih => simpa using ih (h.insert p)

theorem Fits.alike (h : b.Fits points) (h' : b'.Fits points')
    (hsame : ∀ p, p ∈ points ↔ p ∈ points') : b.Alike b' := by
  intro side c
  apply (h side c).alike (h' side c)
  intro a
  simp only [List.mem_map, hsame]

/-- Points that are alike in a coordinate only if they agree in it leave no choice for the box. -/
theorem Fits.eq (h : b.Fits points) (h' : b'.Fits points')
    (hsame : ∀ p, p ∈ points ↔ p ∈ points')
    (hexact : ∀ p ∈ points, ∀ q ∈ points, ∀ c, Scalar.Alike (p.at c) (q.at c) → p.at c = q.at c) :
    b = b' := by
  apply ext_face
  intro side c
  obtain ⟨p, hp, hface⟩ := h.attained side c
  obtain ⟨q, hq, hface'⟩ := h'.attained side c
  have halike := h.alike h' hsame side c
  rw [hface, hface'] at halike ⊢
  exact hexact p hp q ((hsame q).mpr hq) c halike

end

end Bounds

namespace Extent

def ofPoints (points : List (Vec3 α)) : Extent α := points.foldl insert empty

variable {points points' : List (Vec3 α)} {p : Vec3 α}

theorem foldl_insert_some (b : Bounds α) (points : List (Vec3 α)) :
    points.foldl insert (some b) = some (points.foldl Bounds.insert b) := by
  induction points generalizing b with
  | nil => rfl
  | cons p points ih => exact ih (b.insert p)

variable [LawfulOrder α]

theorem exists_fits (hpoints : points ≠ []) :
    ∃ b : Bounds α, ofPoints points = some b ∧ b.Fits points := by
  cases points with
  | nil => exact absurd rfl hpoints
  | cons p points =>
      refine ⟨points.foldl Bounds.insert (Bounds.ofPoint p), foldl_insert_some _ points, ?_⟩
      exact (Bounds.fits_ofPoint p).foldl points

theorem fits_cases (hsame : ∀ p, p ∈ points ↔ p ∈ points') :
    ofPoints points = none ∧ ofPoints points' = none ∨
      ∃ b b' : Bounds α, (ofPoints points = some b ∧ b.Fits points) ∧
        ofPoints points' = some b' ∧ b'.Fits points' := by
  by_cases hnone : points = []
  · have hnone' : points' = [] := by
      rw [List.eq_nil_iff_forall_not_mem]
      intro p hp
      simpa [hnone] using (hsame p).mpr hp
    subst hnone hnone'
    exact Or.inl ⟨rfl, rfl⟩
  · obtain ⟨p, hp⟩ := List.exists_mem_of_ne_nil points hnone
    obtain ⟨b, hb⟩ := exists_fits hnone
    obtain ⟨b', hb'⟩ := exists_fits (List.ne_nil_of_mem ((hsame p).mp hp))
    exact Or.inr ⟨b, b', hb, hb'⟩

theorem ofPoints_alike (hsame : ∀ p, p ∈ points ↔ p ∈ points') :
    Option.Rel Bounds.Alike (ofPoints points) (ofPoints points') := by
  rcases fits_cases hsame with ⟨hnone, hnone'⟩ | ⟨b, b', ⟨hb, hfits⟩, hb', hfits'⟩
  · rw [hnone, hnone']
    exact Option.Rel.none
  · rw [hb, hb']
    exact Option.Rel.some (hfits.alike hfits' hsame)

theorem ofPoints_eq (hsame : ∀ p, p ∈ points ↔ p ∈ points')
    (hexact : ∀ p ∈ points, ∀ q ∈ points, ∀ c,
      Scalar.Alike (p.at c) (q.at c) → p.at c = q.at c) :
    ofPoints points = ofPoints points' := by
  rcases fits_cases hsame with ⟨hnone, hnone'⟩ | ⟨b, b', ⟨hb, hfits⟩, hb', hfits'⟩
  · rw [hnone, hnone']
  · rw [hb, hb', hfits.eq hfits' hsame hexact]

end Extent

/-! ## The points of a walk -/

namespace Setting

variable (S : Setting α β σ)

/-- The points that a walk reaches: the origin and the end of each segment. -/
def visited : List (Vec3 α) := Vec3.zero :: S.segments.map Segment.stop

theorem tour_extent_eq : S.tour.walk.extent = Extent.ofPoints S.visited := by
  rw [tour_extent, visited, Extent.ofPoints, List.foldl_cons, List.foldl_map]

variable {S}

theorem position_mem_visited {v : Visit α β σ} (hv : v ∈ S.course) :
    v.walk.turtle.position ∈ S.visited := by
  have htip := atTip_of_mem hv
  by_cases hparent : ∃ j, Brackets.IsParent S.commands v.index j
  · obtain ⟨j, hj⟩ := hparent
    obtain ⟨u, hu, _, hforward, _, hposition⟩ := htip.ofParent j hj
    have hdraws : u ∈ S.draws := List.mem_filter.mpr ⟨hu, by simpa using hforward⟩
    rw [hposition, visited, segments_eq_map_draws, List.map_map]
    exact List.mem_cons_of_mem _ (List.mem_map.mpr ⟨u, hdraws, rfl⟩)
  · rw [(htip.ofRoot (not_exists.mp hparent)).2]
    exact List.mem_cons_self

theorem start_mem_visited {s : Segment α} (hs : s ∈ S.segments) : s.start ∈ S.visited := by
  rw [segments_eq_map_draws] at hs
  obtain ⟨v, hv, rfl⟩ := List.mem_map.mp hs
  exact position_mem_visited (List.mem_filter.mp hv).1

theorem stop_mem_visited {s : Segment α} (hs : s ∈ S.segments) : s.stop ∈ S.visited :=
  List.mem_cons_of_mem _ (List.mem_map.mpr ⟨s, hs, rfl⟩)

theorem leaf_mem_visited {leaf : LeafTransform α} (hleaf : leaf ∈ S.leaves) :
    leaf.position ∈ S.visited := by
  obtain ⟨v, hv, hplaced⟩ := List.mem_filterMap.mp hleaf
  have hposition : leaf.position = v.walk.turtle.position := by
    simp only [Visit.leaf?, placeLeaf?] at hplaced
    split at hplaced
    · split at hplaced
      · simp only [Option.some.injEq] at hplaced
        rw [← hplaced]
        rfl
      · simp at hplaced
    · simp at hplaced
  rw [hposition]
  exact position_mem_visited hv

theorem exists_tour_extent_fits [LawfulOrder α] (S : Setting α β σ) :
    ∃ box, S.tour.walk.extent = some box ∧ box.Fits S.visited := by
  rw [tour_extent_eq]
  exact Extent.exists_fits (List.cons_ne_nil _ _)

/-- The box of a walk holds all of the plant and is no larger than the points that it was handed,
whose order and repetition it does not show.  Points may be zeros of either sign in a coordinate;
no comparison tells those apart. -/
theorem extent_complete_and_tight :
    (∀ S : Setting Float32 β σ, (∀ p ∈ S.visited, ∀ c, (p.at c).isNaN = false) →
      ∃ box, S.tour.walk.extent = some box ∧
        (∀ s ∈ S.segments, box.Contains s.start ∧ box.Contains s.stop) ∧
        (∀ leaf ∈ S.leaves, box.Contains leaf.position) ∧
        (∀ side c, ∃ p ∈ S.visited, box.face side c = p.at c) ∧
        ∀ c, box.min.at c ≤ box.max.at c) ∧
      ∀ points points' : List (Vec3 Float32), (∀ p, p ∈ points ↔ p ∈ points') →
        Option.Rel Bounds.Alike (Extent.ofPoints points) (Extent.ofPoints points') ∧
          ((∀ p ∈ points, ∀ q ∈ points, ∀ c, Scalar.Alike (p.at c) (q.at c) → p.at c = q.at c) →
            Extent.ofPoints points = Extent.ofPoints points') := by
  constructor
  · intro S hnumbers
    obtain ⟨box, hextent, hfits⟩ := S.exists_tour_extent_fits
    have hcontains : ∀ p ∈ S.visited, box.Contains p := by
      intro p hp
      exact hfits.contains hp fun c => Binary32.isNumber_iff_isNaN.mpr (hnumbers p hp c)
    refine ⟨box, hextent, ?_, ?_, hfits.attained, ?_⟩
    · intro s hs
      exact ⟨hcontains _ (start_mem_visited hs), hcontains _ (stop_mem_visited hs)⟩
    · intro leaf hleaf
      exact hcontains _ (leaf_mem_visited hleaf)
    · intro c
      have horigin := hcontains Vec3.zero List.mem_cons_self
      exact of_decide_eq_true
        (LawfulOrder.le_trans _ _ _ (horigin.low c) (horigin.high c))
  · intro points points' hsame
    exact ⟨Extent.ofPoints_alike hsame, Extent.ofPoints_eq hsame⟩

theorem extent_complete_and_tight_twig :
    let S : Setting Float32 Nat Unit :=
      { shrub Float32 9 with commands := [.forward, .push, .leaf, .pop, .taperMark, .forward] }
    (∀ p ∈ S.visited, ∀ c, (p.at c).isNaN = false) ∧
      ∃ box, S.tour.walk.extent = some box ∧ S.leaves.length = 1 ∧
        (∀ leaf ∈ S.leaves, box.Contains leaf.position) ∧
        ∀ c, box.min.at c ≤ box.max.at c := by
  intro S
  have hnumbers : ∀ p ∈ S.visited, ∀ c, (p.at c).isNaN = false := by decide +kernel
  obtain ⟨box, hextent, _, hleaves, _, hsorted⟩ :=
    (extent_complete_and_tight (β := Nat) (σ := Unit)).1 S hnumbers
  exact ⟨hnumbers, box, hextent, by decide +kernel, hleaves, hsorted⟩

end Setting

end PlantGrowth
