import Mathlib.Data.List.Nodup
import Mathlib.Data.Nat.ModEq
import PlantGrowth.Grammar.Basic
import PlantGrowth.Proofs.TubeRings

/-!
# The directed edges of a tube

The band between two rings has its edges in six families, each of which goes once around: the side
and the diagonal between the rings, either way, the rim of the ring it grows from, and the rim of
the ring it leads to, backwards.  Which directed edges a tube has, and how often, follows from the
pairs of rings that are stitched.  On a stretch without branches every edge is met once in each
direction, so the surface is wound one way all over.
-/

namespace PlantGrowth

variable {α β σ : Type}

def Triangle.edges (t : Triangle) : List (Nat × Nat) := [(t.a, t.b), (t.b, t.c), (t.c, t.a)]

namespace TubeBuilder

/-- The vertex at a spoke of a ring of `n` vertices, with the spokes counted around. -/
def corner (n ring spoke : Nat) : Nat := ring * n + spoke % n

/-- The edges from ring `p` to ring `q` that lead from a spoke moved by `x` to it moved by `y`. -/
def rung (n p x q y : Nat) : List (Nat × Nat) :=
  (List.range n).map fun j => (corner n p (j + x), corner n q (j + y))

variable {n : Nat}

theorem corner_inj (hn : 0 < n) {p k i j : Nat} :
    corner n p i = corner n k j ↔ p = k ∧ i ≡ j [MOD n] := by
  constructor
  · intro h
    have hring := congrArg (· / n) h
    have hspoke := congrArg (· % n) h
    simp only [corner, Nat.add_comm (_ * n), Nat.add_mul_div_right _ _ hn,
      Nat.div_eq_of_lt (Nat.mod_lt _ hn), Nat.zero_add] at hring
    simp only [corner, Nat.mul_add_mod_self_right, Nat.mod_mod] at hspoke
    exact ⟨hring, hspoke⟩
  · rintro ⟨rfl, hspoke⟩
    rw [corner, corner, hspoke]

/-- A spoke moved by `x` goes once around. -/
theorem exists_spoke (hn : 0 < n) (i x : Nat) : ∃ j < n, j + x ≡ i [MOD n] := by
  refine ⟨(i + x * (n - 1)) % n, Nat.mod_lt _ hn, ?_⟩
  have haround : x * (n - 1) + x = x * n := by
    rw [← Nat.mul_succ, Nat.succ_eq_add_one, Nat.sub_add_cancel hn]
  calc (i + x * (n - 1)) % n + x
      ≡ i + x * (n - 1) + x [MOD n] := (Nat.mod_modEq _ n).add_right x
    _ = i + x * n := by rw [Nat.add_assoc, haround]
    _ ≡ i [MOD n] := Nat.add_mul_mod_self_right i x n

theorem nodup_rung (hn : 0 < n) (p x q y : Nat) : (rung n p x q y).Nodup := by
  apply List.Nodup.map_on _ List.nodup_range
  intro i hi j hj h
  have hspoke := ((corner_inj hn).mp (congrArg Prod.fst h)).2.add_right_cancel' x
  exact hspoke.eq_of_lt_of_lt (List.mem_range.mp hi) (List.mem_range.mp hj)

theorem mem_rung_iff (hn : 0 < n) {p x q y k i l i' : Nat} :
    (corner n k i, corner n l i') ∈ rung n p x q y ↔
      p = k ∧ q = l ∧ i + y ≡ i' + x [MOD n] := by
  simp only [rung, List.mem_map, List.mem_range, Prod.mk.injEq, corner_inj hn]
  constructor
  · rintro ⟨j, _, ⟨hp, hi⟩, hq, hi'⟩
    refine ⟨hp, hq, ?_⟩
    calc i + y ≡ j + x + y [MOD n] := (hi.symm).add_right y
      _ = j + y + x := Nat.add_right_comm j x y
      _ ≡ i' + x [MOD n] := hi'.add_right x
  · rintro ⟨hp, hq, hmoved⟩
    obtain ⟨j, hj, hi⟩ := exists_spoke hn i x
    refine ⟨j, hj, ⟨hp, hi⟩, hq, ?_⟩
    apply Nat.ModEq.add_right_cancel' x
    calc j + y + x = j + x + y := Nat.add_right_comm j y x
      _ ≡ i + y [MOD n] := hi.add_right y
      _ ≡ i' + x [MOD n] := hmoved

theorem count_rung (hn : 3 ≤ n) {p x q y k l j a b : Nat} (hx : x ≤ 1) (hy : y ≤ 1)
    (ha : a ≤ 1) (hb : b ≤ 1) :
    (rung n p x q y).count (corner n k (j + a), corner n l (j + b)) =
      if p = k ∧ q = l ∧ a + y = b + x then 1 else 0 := by
  have hpos : 0 < n := by omega
  -- both sides are two at most, so with three spokes they cannot be congruent and different
  have hmoved : j + a + y ≡ j + b + x [MOD n] ↔ a + y = b + x := by
    rw [Nat.add_assoc, Nat.add_assoc]
    constructor
    · intro h
      exact (h.add_left_cancel' j).eq_of_lt_of_lt (by omega) (by omega)
    · intro h
      rw [h]
  rw [(nodup_rung hpos p x q y).count]
  simp only [mem_rung_iff hpos, hmoved]

theorem count_flatMap_cons (e : Nat × Nat) (f : Nat → Nat × Nat) (g : Nat → List (Nat × Nat))
    (l : List Nat) :
    (l.flatMap fun j => f j :: g j).count e = (l.map f).count e + (l.flatMap g).count e := by
  induction l with
  | nil => rfl
  | cons j l ih =>
      simp only [List.flatMap_cons, List.map_cons, List.count_append, List.count_cons, ih]
      omega

theorem band_eq (n p q : Nat) :
    band n p q = (List.range n).flatMap fun j =>
      [⟨corner n p j, corner n q (j + 1), corner n q j⟩,
        ⟨corner n p j, corner n p (j + 1), corner n q (j + 1)⟩] := by
  apply List.flatMap_congr
  intro j hj
  have hspoke : j % n = j := Nat.mod_eq_of_lt (List.mem_range.mp hj)
  simp only [corner, hspoke]

def bandEdges (n p q : Nat) : List (Nat × Nat) := (band n p q).flatMap Triangle.edges

theorem bandEdges_eq (n p q : Nat) :
    bandEdges n p q = (List.range n).flatMap fun j =>
      [(corner n p j, corner n q (j + 1)), (corner n q (j + 1), corner n q j),
        (corner n q j, corner n p j), (corner n p j, corner n p (j + 1)),
        (corner n p (j + 1), corner n q (j + 1)), (corner n q (j + 1), corner n p j)] := by
  rw [bandEdges, band_eq, List.flatMap_assoc]
  rfl

/-- The six families of the edges of a band. -/
theorem count_bandEdges (n p q : Nat) (e : Nat × Nat) :
    (bandEdges n p q).count e =
      (rung n p 0 q 1).count e + (rung n q 1 q 0).count e + (rung n q 0 p 0).count e +
        (rung n p 0 p 1).count e + (rung n p 1 q 1).count e + (rung n q 1 p 0).count e := by
  have hnone : (List.range n).flatMap (fun _ => ([] : List (Nat × Nat))) = [] :=
    List.flatMap_eq_nil_iff.mpr fun _ _ => rfl
  rw [bandEdges_eq]
  simp only [count_flatMap_cons, rung, hnone, List.count_nil, Nat.add_zero, Nat.add_assoc]

/-- How often a band has an edge between two rings, from a spoke moved by `a` to it moved by
`b`. -/
theorem count_bandEdges_corner (hn : 3 ≤ n) (p q k l j : Nat) {a b : Nat} (ha : a ≤ 1)
    (hb : b ≤ 1) :
    (bandEdges n p q).count (corner n k (j + a), corner n l (j + b)) =
      (if p = k ∧ q = l ∧ a + 1 = b then 1 else 0) +
      (if q = k ∧ q = l ∧ a = b + 1 then 1 else 0) +
      (if q = k ∧ p = l ∧ a = b then 1 else 0) +
      (if p = k ∧ p = l ∧ a + 1 = b then 1 else 0) +
      (if p = k ∧ q = l ∧ a = b then 1 else 0) +
      (if q = k ∧ p = l ∧ a = b + 1 then 1 else 0) := by
  rw [count_bandEdges]
  simp only [count_rung hn, ha, hb, Nat.zero_le, le_refl, Nat.add_zero, Nat.add_right_cancel_iff]

section

variable (hn : 3 ≤ n) {p q : Nat} (hpq : p ≠ q) (k l j : Nat)

include hn hpq

/-- The edges that stay at one spoke are the sides. -/
theorem count_level :
    (bandEdges n p q).count (corner n k j, corner n l j) =
      if p = k ∧ q = l ∨ q = k ∧ p = l then 1 else 0 := by
  have hcount := count_bandEdges_corner hn p q k l j (Nat.zero_le 1) (Nat.zero_le 1)
  simp only [Nat.add_zero] at hcount
  rw [hcount]
  simp only [Nat.zero_add, one_ne_zero, zero_ne_one, and_false, and_true, if_false]
  split_ifs <;> omega

/-- The edges to the next spoke are the diagonals and the rim of the first ring. -/
theorem count_onward :
    (bandEdges n p q).count (corner n k j, corner n l (j + 1)) =
      if p = k ∧ (q = l ∨ p = l) then 1 else 0 := by
  have hcount := count_bandEdges_corner hn p q k l j (Nat.zero_le 1) (le_refl 1)
  simp only [Nat.add_zero] at hcount
  rw [hcount]
  simp only [Nat.reduceAdd, zero_ne_one, OfNat.zero_ne_ofNat, and_false, and_true, if_false]
  split_ifs <;> omega

/-- The edges to the spoke before are the diagonals backwards and the rim of the second ring. -/
theorem count_backward :
    (bandEdges n p q).count (corner n k (j + 1), corner n l j) =
      if q = k ∧ (q = l ∨ p = l) then 1 else 0 := by
  have hcount := count_bandEdges_corner hn p q k l j (le_refl 1) (Nat.zero_le 1)
  simp only [Nat.add_zero] at hcount
  rw [hcount]
  simp only [Nat.zero_add, Nat.reduceAdd, one_ne_zero, OfNat.ofNat_ne_zero, and_false, and_true,
    if_false]
  split_ifs <;> omega

end

end TubeBuilder

open TubeBuilder

namespace TubeMesh

variable (m : TubeMesh α)

/-- All directed edges of all triangles. -/
def edges : List (Nat × Nat) := m.triangles.toList.flatMap Triangle.edges

/-- The whole band from ring `p` to ring `q` belongs to the surface. -/
def Stitched (p q : Nat) : Prop := ∀ t ∈ band m.radial p q, t ∈ m.triangles

instance (p q : Nat) : Decidable (m.Stitched p q) :=
  inferInstanceAs (Decidable (∀ t ∈ band m.radial p q, t ∈ m.triangles))

/-- The rings that are stitched onto ring `k`. -/
def ringsOn (k : Nat) : List Nat := (List.range m.rings).filter (m.Stitched k)

namespace StitchedBy

variable {m} {pairs : List (Nat × Nat)} (h : m.StitchedBy pairs) {p q k : Nat}

include h

theorem nodup_children : (pairs.map Prod.snd).Nodup := by
  rw [h.children]
  exact List.nodup_range'

theorem parent_unique {p' : Nat} (hp : (p, q) ∈ pairs) (hp' : (p', q) ∈ pairs) : p = p' :=
  congrArg Prod.fst (List.inj_on_of_nodup_map h.nodup_children hp hp' rfl)

theorem mem_children_iff : (∃ p, (p, q) ∈ pairs) ↔ 0 < q ∧ q < m.rings := by
  have hrooted := h.rooted
  have hmem : q ∈ pairs.map Prod.snd ↔ 1 ≤ q ∧ q < 1 + (m.rings - 1) := by
    rw [h.children, List.mem_range'_1]
  rw [Nat.add_sub_cancel' hrooted] at hmem
  simpa [Nat.succ_le_iff] using hmem

theorem stitched_iff (hn : 0 < m.radial) : m.Stitched p q ↔ (p, q) ∈ pairs := by
  have hmem : ∀ t, t ∈ m.triangles ↔ ∃ pair ∈ pairs, t ∈ band m.radial pair.1 pair.2 := by
    intro t
    rw [← Array.mem_toList_iff, h.triangles, List.mem_flatMap]
  constructor
  · intro hstitched
    -- the first triangle of the band tells the two rings
    have hfirst : (⟨corner m.radial p 0, corner m.radial q 1, corner m.radial q 0⟩ : Triangle) ∈
        band m.radial p q := by
      rw [band_eq, List.mem_flatMap]
      exact ⟨0, List.mem_range.mpr hn, by simp⟩
    obtain ⟨⟨p', q'⟩, hpair, ht⟩ := (hmem _).mp (hstitched _ hfirst)
    have holder := h.older _ hpair
    rw [band_eq, List.mem_flatMap] at ht
    obtain ⟨j, _, ht⟩ := ht
    simp only [List.mem_cons, List.not_mem_nil, or_false, Triangle.mk.injEq, corner_inj hn] at ht
    rcases ht with ⟨⟨rfl, _⟩, ⟨rfl, _⟩, _⟩ | ⟨⟨rfl, _⟩, ⟨rfl, _⟩, ⟨rfl, _⟩⟩
    · exact hpair
    · exact absurd holder (Nat.lt_irrefl _)
  · intro hpair t ht
    exact (hmem t).mpr ⟨(p, q), hpair, ht⟩

theorem edges_eq : m.edges = pairs.flatMap fun pair => bandEdges m.radial pair.1 pair.2 := by
  rw [edges, h.triangles, List.flatMap_assoc]
  rfl

/-- An edge that is in a band once if `P`, and otherwise not, is in the surface as often as there
are pairs with `P`. -/
theorem count_edges {e : Nat × Nat} (P : Nat × Nat → Prop) [DecidablePred P]
    (hband : ∀ pair ∈ pairs,
      (bandEdges m.radial pair.1 pair.2).count e = if P pair then 1 else 0) :
    m.edges.count e = pairs.countP P := by
  rw [h.edges_eq]
  clear h
  induction pairs with
  | nil => rfl
  | cons pair pairs ih =>
      simp only [List.mem_cons, forall_eq_or_imp] at hband
      rw [List.flatMap_cons, List.count_append, hband.1, ih hband.2, List.countP_cons]
      simp [Nat.add_comm]

theorem mem_edges_iff {e : Nat × Nat} :
    e ∈ m.edges ↔ ∃ pair ∈ pairs, e ∈ bandEdges m.radial pair.1 pair.2 := by
  rw [h.edges_eq, List.mem_flatMap]

/-! ### Counting pairs -/

theorem countP_pair (hpair : (p, q) ∈ pairs) :
    pairs.countP (fun pair => pair.1 = p ∧ pair.2 = q) = 1 := by
  have hcount : pairs.count (p, q) = 1 := by
    rw [h.nodup_children.of_map.count, if_pos hpair]
  rw [← hcount, List.count_eq_countP]
  apply List.countP_congr
  simp

theorem countP_child (k : Nat) :
    pairs.countP (fun pair => pair.2 = k) = if 0 < k ∧ k < m.rings then 1 else 0 := by
  have hcount : pairs.countP (fun pair => pair.2 = k) = (pairs.map Prod.snd).count k := by
    rw [List.count_eq_countP, List.countP_map]
    rfl
  have hmem : k ∈ pairs.map Prod.snd ↔ 0 < k ∧ k < m.rings := by
    rw [← h.mem_children_iff]
    simp
  rw [hcount, h.nodup_children.count]
  simp only [hmem]

theorem ringsOn_eq (hn : 0 < m.radial) :
    m.ringsOn k = (pairs.filter fun pair => pair.1 = k).map Prod.snd := by
  have hrange : List.range m.rings = 0 :: pairs.map Prod.snd := by
    obtain ⟨rings, hrings⟩ := Nat.exists_eq_add_one_of_ne_zero h.rooted.ne'
    rw [h.children, hrings, List.range_eq_range', List.range'_succ]
    rfl
  have hroot : ¬ m.Stitched k 0 := by
    intro hstitched
    exact Nat.not_lt_zero k (h.older _ ((h.stitched_iff hn).mp hstitched))
  rw [ringsOn, hrange, List.filter_cons_of_neg (by simpa using hroot), List.filter_map]
  apply congrArg
  apply List.filter_congr
  intro pair hpair
  simp only [Function.comp, decide_eq_decide, h.stitched_iff hn]
  constructor
  · intro hk
    exact h.parent_unique hpair hk
  · rintro rfl
    exact hpair

theorem countP_parent (hn : 0 < m.radial) (k : Nat) :
    pairs.countP (fun pair => pair.1 = k) = (m.ringsOn k).length := by
  rw [h.ringsOn_eq hn, List.length_map, List.countP_eq_length_filter]

/-! ### Counting edges -/

theorem count_edges_once (hpair : (p, q) ∈ pairs) {e : Nat × Nat}
    (hband : ∀ pair ∈ pairs, (bandEdges m.radial pair.1 pair.2).count e =
      if pair.1 = p ∧ pair.2 = q then 1 else 0) : m.edges.count e = 1 := by
  rw [h.count_edges _ hband]
  exact h.countP_pair hpair

variable (hn : 3 ≤ m.radial)

include hn

theorem count_side (hpair : (p, q) ∈ pairs) (j : Nat) :
    m.edges.count (corner m.radial p j, corner m.radial q j) = 1 ∧
      m.edges.count (corner m.radial q j, corner m.radial p j) = 1 := by
  have hlt : p < q := h.older _ hpair
  constructor
  · apply h.count_edges_once hpair
    intro pair hpair'
    have hlt' := h.older _ hpair'
    rw [count_level hn hlt'.ne]
    exact if_congr (by omega) rfl rfl
  · apply h.count_edges_once hpair
    intro pair hpair'
    have hlt' := h.older _ hpair'
    rw [count_level hn hlt'.ne]
    exact if_congr (by omega) rfl rfl

theorem count_diagonal (hpair : (p, q) ∈ pairs) (j : Nat) :
    m.edges.count (corner m.radial p j, corner m.radial q (j + 1)) = 1 ∧
      m.edges.count (corner m.radial q (j + 1), corner m.radial p j) = 1 := by
  have hlt : p < q := h.older _ hpair
  constructor
  · apply h.count_edges_once hpair
    intro pair hpair'
    rw [count_onward hn (h.older _ hpair').ne]
    exact if_congr (by omega) rfl rfl
  · apply h.count_edges_once hpair
    intro pair hpair'
    rw [count_backward hn (h.older _ hpair').ne]
    exact if_congr (by omega) rfl rfl

theorem count_rim (k j : Nat) :
    m.edges.count (corner m.radial k j, corner m.radial k (j + 1)) = (m.ringsOn k).length := by
  rw [← h.countP_parent (by omega)]
  apply h.count_edges
  intro pair hpair
  have hlt := h.older _ hpair
  rw [count_onward hn hlt.ne]
  exact if_congr (by omega) rfl rfl

theorem count_rim_backward (k j : Nat) :
    m.edges.count (corner m.radial k (j + 1), corner m.radial k j) =
      if 0 < k ∧ k < m.rings then 1 else 0 := by
  rw [← h.countP_child]
  apply h.count_edges
  intro pair hpair
  have hlt := h.older _ hpair
  rw [count_backward hn hlt.ne]
  exact if_congr (by omega) rfl rfl

end StitchedBy

/-- The edges of the surface are those of tubes of `n` vertices around, which run from ring to ring
and are all wound one way. -/
structure OrientedSurface (m : TubeMesh α) (n : Nat) : Prop where
  radial : m.radial = n
  vertices : m.vertexCount = m.rings * n
  parent : ∀ q, 0 < q → q < m.rings → ∃! p, p < q ∧ m.Stitched p q
  older : ∀ p q, m.Stitched p q → p < q ∧ q < m.rings
  sides : ∀ p q, m.Stitched p q → ∀ j,
    m.edges.count (corner n p j, corner n q j) = 1 ∧
      m.edges.count (corner n q j, corner n p j) = 1
  diagonals : ∀ p q, m.Stitched p q → ∀ j,
    m.edges.count (corner n p j, corner n q (j + 1)) = 1 ∧
      m.edges.count (corner n q (j + 1), corner n p j) = 1
  rims : ∀ k < m.rings, ∀ j,
    m.edges.count (corner n k j, corner n k (j + 1)) = (m.ringsOn k).length ∧
      m.edges.count (corner n k (j + 1), corner n k j) = if k = 0 then 0 else 1
  /-- On a ring that carries one ring the surface passes from one side to the other. -/
  unbranched : ∀ k < m.rings, k ≠ 0 → (m.ringsOn k).length = 1 → ∀ j,
    m.edges.count (corner n k j, corner n k (j + 1)) = 1 ∧
      m.edges.count (corner n k (j + 1), corner n k j) = 1
  noOther : ∀ e ∈ m.edges,
    (∃ p q, m.Stitched p q ∧ ∃ j,
      e = (corner n p j, corner n q j) ∨ e = (corner n q j, corner n p j) ∨
        e = (corner n p j, corner n q (j + 1)) ∨ e = (corner n q (j + 1), corner n p j)) ∨
      ∃ k < m.rings, ∃ j,
        e = (corner n k j, corner n k (j + 1)) ∨ e = (corner n k (j + 1), corner n k j)

namespace StitchedBy

variable {m : TubeMesh α} {pairs : List (Nat × Nat)} (h : m.StitchedBy pairs)
  (hn : 3 ≤ m.radial)

include h hn

theorem rims (k : Nat) (hk : k < m.rings) (j : Nat) :
    m.edges.count (corner m.radial k j, corner m.radial k (j + 1)) = (m.ringsOn k).length ∧
      m.edges.count (corner m.radial k (j + 1), corner m.radial k j) =
        if k = 0 then 0 else 1 := by
  refine ⟨h.count_rim hn k j, ?_⟩
  rw [h.count_rim_backward hn]
  split_ifs <;> omega

theorem noOther {e : Nat × Nat} (he : e ∈ m.edges) :
    (∃ p q, m.Stitched p q ∧ ∃ j,
      e = (corner m.radial p j, corner m.radial q j) ∨
        e = (corner m.radial q j, corner m.radial p j) ∨
        e = (corner m.radial p j, corner m.radial q (j + 1)) ∨
        e = (corner m.radial q (j + 1), corner m.radial p j)) ∨
      ∃ k < m.rings, ∃ j,
        e = (corner m.radial k j, corner m.radial k (j + 1)) ∨
          e = (corner m.radial k (j + 1), corner m.radial k j) := by
  obtain ⟨⟨p, q⟩, hpair, he⟩ := h.mem_edges_iff.mp he
  have hstitched : m.Stitched p q := (h.stitched_iff (by omega)).mpr hpair
  have hlt := h.older _ hpair
  have hq : q < m.rings := (h.mem_children_iff.mp ⟨p, hpair⟩).2
  rw [bandEdges_eq, List.mem_flatMap] at he
  obtain ⟨j, _, he⟩ := he
  simp only [List.mem_cons, List.not_mem_nil, or_false] at he
  rcases he with rfl | rfl | rfl | rfl | rfl | rfl
  · exact Or.inl ⟨p, q, hstitched, j, by simp⟩
  · exact Or.inr ⟨q, hq, j, by simp⟩
  · exact Or.inl ⟨p, q, hstitched, j, by simp⟩
  · exact Or.inr ⟨p, hlt.trans hq, j, by simp⟩
  · exact Or.inl ⟨p, q, hstitched, j + 1, by simp⟩
  · exact Or.inl ⟨p, q, hstitched, j, by simp⟩

theorem orientedSurface : m.OrientedSurface m.radial where
  radial := rfl
  vertices := h.positions
  parent := by
    intro q hq hrings
    obtain ⟨p, hpair⟩ := h.mem_children_iff.mpr ⟨hq, hrings⟩
    refine ⟨p, ⟨h.older _ hpair, (h.stitched_iff (by omega)).mpr hpair⟩, ?_⟩
    rintro p' ⟨_, hstitched⟩
    exact h.parent_unique ((h.stitched_iff (by omega)).mp hstitched) hpair
  older := by
    intro p q hstitched
    have hpair := (h.stitched_iff (by omega)).mp hstitched
    exact ⟨h.older _ hpair, (h.mem_children_iff.mp ⟨p, hpair⟩).2⟩
  sides := by
    intro p q hstitched
    exact h.count_side hn ((h.stitched_iff (by omega)).mp hstitched)
  diagonals := by
    intro p q hstitched
    exact h.count_diagonal hn ((h.stitched_iff (by omega)).mp hstitched)
  rims := h.rims hn
  unbranched := by
    intro k hk hroot hone j
    obtain ⟨hrim, hback⟩ := h.rims hn k hk j
    rw [if_neg hroot] at hback
    exact ⟨hrim.trans hone, hback⟩
  noOther := fun _ he => h.noOther hn he

end StitchedBy

end TubeMesh

/-- The walk over a word that builds a tube. -/
def Walk.tube [Scalar α] (habit : Habit α) (source : Source α σ) (word : Word) (s : σ)
    (radial maxVertices : Nat) : Walk α (TubeBuilder α) σ :=
  (Walk.run habit Builder.tube source (Command.ofWord word)
    (TubeBuilder.empty radial maxVertices) s).walk

/-- Whatever the word, the chances, the count of vertices around and the cap: the tube that a walk
builds has a ring for the root, for every segment and for every bend, and it is wound one way all
over. -/
theorem Walk.tube_oriented [Scalar α] (habit : Habit α) (source : Source α σ) (word : Word)
    (s : σ) (radial maxVertices : Nat) :
    (Walk.tube habit source word s radial maxVertices).builder.mesh.OrientedSurface
        (max radial 3) ∧
      (Walk.tube habit source word s radial maxVertices).builder.mesh.rings =
        1 + (Walk.tube habit source word s radial maxVertices).segments +
          (Walk.tube habit source word s radial maxVertices).builder.mesh.pivots := by
  have hsound := Setting.tour_sound
    (S := ⟨habit, Builder.tube, source, Command.ofWord word,
      TubeBuilder.empty radial maxVertices, s⟩) rfl rfl
  obtain ⟨pairs, hstitched⟩ := hsound.stitched
  have hsurface := hstitched.orientedSurface (hsound.radial_eq ▸ le_max_right radial 3)
  rw [hsound.radial_eq] at hsurface
  exact ⟨hsurface, hsound.rings⟩

end PlantGrowth
