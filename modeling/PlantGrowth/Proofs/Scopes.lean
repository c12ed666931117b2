import PlantGrowth.Proofs.Brackets
import Mathlib.Data.Finset.Card
import Mathlib.Data.Finset.Range

/-!
# Scopes and the runs of segments in them

A word falls into scopes.  One opens at the start, behind every `push`, and behind every `pop` that
closes nothing; side branches are passed over, so from a position of a scope one gets to the next
either over a single command or over a whole pair of brackets.  The taper marks of a scope cut it
into runs: the run of a mark is the segments whose next mark it is.
-/

namespace PlantGrowth

namespace Brackets

variable {commands : List Command} {i i' j k m o p q s : Nat}

/-! ## Where scopes open -/

/-- A scope opens at the start, behind a `push`, and behind a `pop` without a `push`. -/
def Opens (commands : List Command) (o : Nat) : Prop :=
  o = 0 ∨ ∃ p, o = p + 1 ∧
    (commands[p]? = some .push ∨ commands[p]? = some .pop ∧ ∀ q, ¬ Matched commands q p)

structure InScope (commands : List Command) (o i : Nat) : Prop where
  opens : Opens commands o
  sameScope : SameScope commands o i

theorem Opens.eq_of_sameScope (hopens : Opens commands o) (h : SameScope commands j o) :
    j = o := by
  rcases hopens with rfl | ⟨p, rfl, hcommand⟩
  · exact Nat.le_zero.mp h.le
  · by_contra hne
    have hjp : j ≤ p := by
      have := h.le
      omega
    have hheight := h.height_eq
    rcases hcommand with hpush | ⟨hpop, hunmatched⟩
    · have habove := h.above p hjp (Nat.le_succ p)
      rw [height_succ_of_push hpush] at hheight
      omega
    · rw [height_succ_of_pop hpop] at hheight
      obtain ⟨q, _, hmatched⟩ := exists_matched_of_pop hpop hjp (by omega)
      exact hunmatched q hmatched

theorem InScope.le_of_sameScope (h : InScope commands o m) (hjm : SameScope commands j m) :
    o ≤ j := by
  by_contra hlt
  have hjo : SameScope commands j o := hjm.of_right h.sameScope (by omega)
  have := h.opens.eq_of_sameScope hjo
  omega

theorem InScope.unique {o' : Nat} (h : InScope commands o i) (h' : InScope commands o' i) :
    o = o' := by
  apply Nat.le_antisymm
  · exact h.le_of_sameScope h'.sameScope
  · exact h'.le_of_sameScope h.sameScope

theorem exists_inScope (hi : i ≤ commands.length) : ∃ o, InScope commands o i := by
  induction i using Nat.strongRecOn with
  | ind i ih =>
      cases i with
      | zero => exact ⟨0, Or.inl rfl, SameScope.refl commands 0⟩
      | succ i =>
          have hcommand : commands[i]? = some commands[i] := List.getElem?_eq_getElem hi
          by_cases hmatched : ∃ p, Matched commands p i
          · obtain ⟨p, hmatched⟩ := hmatched
            have hlt := hmatched.lt
            obtain ⟨o, hopens, hscope⟩ := ih p (by omega) (by omega)
            exact ⟨o, hopens, hscope.trans hmatched.sameScope⟩
          · cases hc : commands[i] with
            | push =>
                exact ⟨i + 1, Or.inr ⟨i, rfl, Or.inl (hc ▸ hcommand)⟩, SameScope.refl _ _⟩
            | pop =>
                refine ⟨i + 1, Or.inr ⟨i, rfl, Or.inr ⟨hc ▸ hcommand, ?_⟩⟩, SameScope.refl _ _⟩
                intro p hp
                exact hmatched ⟨p, hp⟩
            | _ =>
                obtain ⟨o, hopens, hscope⟩ := ih i (Nat.lt_succ_self i) (by omega)
                exact ⟨o, hopens, hscope.succ_right hcommand (by rw [hc]; rfl)⟩

/-! ## From one position of a scope to the next -/

/-- Position `i'` is the next one of the scope behind position `i`. -/
inductive Follows (commands : List Command) : Nat → Nat → Prop where
  | command {i : Nat} {c : Command} (hc : commands[i]? = some c) (hrise : c.rise = 0) :
    Follows commands i (i + 1)
  | branch {p q : Nat} (hmatched : Matched commands p q) : Follows commands p (q + 1)

theorem Follows.sameScope (h : Follows commands i i') : SameScope commands i i' := by
  cases h with
  | command hc hrise => exact (SameScope.refl commands i).succ_right hc hrise
  | branch hmatched => exact hmatched.sameScope

theorem Follows.lt (h : Follows commands i i') : i < i' := by
  cases h with
  | command => exact Nat.lt_succ_self i
  | branch hmatched => exact Nat.lt_succ_of_lt hmatched.lt

/-- Nothing of the scope lies between a position and the next one. -/
theorem Follows.le_of_sameScope (h : Follows commands i i') (hij : SameScope commands i j)
    (hlt : i < j) : i' ≤ j := by
  cases h with
  | command => exact hlt
  | branch hmatched =>
      by_contra hinside
      have hhigher := hmatched.height_lt hlt (by omega)
      have hheight := hij.height_eq
      omega

theorem Follows.sameScope_iff (h : Follows commands i i') :
    SameScope commands i j ↔ j = i ∨ SameScope commands i' j := by
  constructor
  · intro hij
    rcases Nat.eq_or_lt_of_le hij.le with heq | hlt
    · exact Or.inl heq.symm
    · exact Or.inr (h.sameScope.of_left hij (h.le_of_sameScope hij hlt))
  · rintro (rfl | hij)
    · exact SameScope.refl commands j
    · exact h.sameScope.trans hij

theorem SameScope.exists_follows (h : SameScope commands i j) (hij : i < j)
    (hj : j ≤ commands.length) : ∃ i', Follows commands i i' ∧ SameScope commands i' j := by
  have hcommand : commands[i]? = some commands[i] := List.getElem?_eq_getElem (by omega)
  have hnext : ∃ i', Follows commands i i' := by
    cases hc : commands[i] with
    | push =>
        obtain ⟨q, _, hmatched⟩ := exists_matched_of_push (hc ▸ hcommand) hij h.height_eq.le
        exact ⟨q + 1, .branch hmatched⟩
    | pop => exact absurd (hc ▸ hcommand) (h.command_ne_pop hij)
    | _ => exact ⟨i + 1, .command hcommand (by rw [hc]; rfl)⟩
  obtain ⟨i', hfollows⟩ := hnext
  rcases hfollows.sameScope_iff.mp h with heq | hscope
  · omega
  · exact ⟨i', hfollows, hscope⟩

/-! ## Marks and runs -/

/-- The next taper mark of the scope, from position `i` on, stands at `m`. -/
structure NextMark (commands : List Command) (i m : Nat) : Prop where
  marks : commands[m]? = some .taperMark
  sameScope : SameScope commands i m
  first : ∀ k < m, SameScope commands i k → commands[k]? ≠ some .taperMark

instance (commands : List Command) (i m : Nat) : Decidable (NextMark commands i m) :=
  decidable_of_iff
    (commands[m]? = some .taperMark ∧ SameScope commands i m ∧
      ∀ k < m, SameScope commands i k → commands[k]? ≠ some .taperMark)
    ⟨fun ⟨hmarks, hscope, hfirst⟩ => ⟨hmarks, hscope, hfirst⟩,
      fun h => ⟨h.marks, h.sameScope, h.first⟩⟩

/-- The segments of the scope of `i` that are drawn from `i` on and before `m`. -/
def drawsUpTo (commands : List Command) (i m : Nat) : Finset Nat :=
  {j ∈ Finset.range m | commands[j]? = some .forward ∧ SameScope commands i j}

/-- The segments that lead up to the mark at `m`: it is the next one for them. -/
def leadUp (commands : List Command) (m : Nat) : Finset Nat :=
  {j ∈ Finset.range m | commands[j]? = some .forward ∧ NextMark commands j m}

/-- The segments of the scope that opens at `o` which stand between position `m` and the last mark
of the scope before it, or the opening when there is none. -/
def run (commands : List Command) (o m : Nat) : Finset Nat :=
  {j ∈ drawsUpTo commands o m |
    ∀ k < m, j < k → SameScope commands o k → commands[k]? ≠ some .taperMark}

theorem mem_drawsUpTo :
    j ∈ drawsUpTo commands i m ↔
      j < m ∧ commands[j]? = some .forward ∧ SameScope commands i j := by
  simp [drawsUpTo]

theorem mem_leadUp :
    j ∈ leadUp commands m ↔
      j < m ∧ commands[j]? = some .forward ∧ NextMark commands j m := by
  simp [leadUp]

theorem mem_run :
    j ∈ run commands o m ↔
      (j < m ∧ commands[j]? = some .forward ∧ SameScope commands o j) ∧
        ∀ k < m, j < k → SameScope commands o k → commands[k]? ≠ some .taperMark := by
  simp [run, drawsUpTo]

namespace NextMark

theorem lt_length (h : NextMark commands i m) : m < commands.length :=
  (List.getElem?_eq_some_iff.mp h.marks).1

theorem unique {m' : Nat} (h : NextMark commands i m) (h' : NextMark commands i m') :
    m = m' := by
  rcases Nat.lt_trichotomy m m' with hlt | heq | hlt
  · exact absurd h.marks (h'.first m hlt h.sameScope)
  · exact heq
  · exact absurd h'.marks (h.first m' hlt h'.sameScope)

theorem lt (h : NextMark commands i m) (hmark : commands[i]? ≠ some .taperMark) : i < m := by
  apply Nat.lt_of_le_of_ne h.sameScope.le
  rintro rfl
  exact hmark h.marks

theorem command_ne_pop (h : NextMark commands i m) : commands[i]? ≠ some .pop := by
  intro hpop
  have hlt := h.lt (by simp [hpop])
  exact h.sameScope.command_ne_pop hlt hpop

theorem self (hmark : commands[m]? = some .taperMark) : NextMark commands m m := by
  refine ⟨hmark, SameScope.refl commands m, ?_⟩
  intro k hk hscope
  have := hscope.le
  omega

theorem exists_of_mark (hmark : commands[m]? = some .taperMark) (hscope : SameScope commands i m) :
    ∃ m', NextMark commands i m' := by
  have hex : ∃ k, SameScope commands i k ∧ commands[k]? = some .taperMark := ⟨m, hscope, hmark⟩
  obtain ⟨hfirst, hmarks⟩ := Nat.find_spec hex
  refine ⟨Nat.find hex, hmarks, hfirst, ?_⟩
  intro k hk hscopek hmarkk
  exact Nat.find_min hex hk ⟨hscopek, hmarkk⟩

/-- What is the next mark from a position is the next one from all later positions of the scope. -/
theorem of_sameScope (h : NextMark commands i m) (hij : SameScope commands i j) (hjm : j ≤ m) :
    NextMark commands j m := by
  refine ⟨h.marks, hij.of_left h.sameScope hjm, ?_⟩
  intro k hk hscope
  exact h.first k hk (hij.trans hscope)

end NextMark

theorem Follows.nextMark_iff (h : Follows commands i i')
    (hmark : commands[i]? ≠ some .taperMark) :
    NextMark commands i m ↔ NextMark commands i' m := by
  constructor
  · intro hnext
    have hlt := hnext.lt hmark
    exact hnext.of_sameScope h.sameScope (h.le_of_sameScope hnext.sameScope hlt)
  · intro hnext
    refine ⟨hnext.marks, h.sameScope.trans hnext.sameScope, ?_⟩
    intro k hk hscope
    rcases h.sameScope_iff.mp hscope with rfl | hscope
    · exact hmark
    · exact hnext.first k hk hscope

theorem drawsUpTo_self (commands : List Command) (i : Nat) : drawsUpTo commands i i = ∅ := by
  apply Finset.eq_empty_of_forall_notMem
  intro j hj
  obtain ⟨hlt, _, hscope⟩ := mem_drawsUpTo.mp hj
  have := hscope.le
  omega

theorem Follows.drawsUpTo_eq (h : Follows commands i i')
    (hforward : commands[i]? ≠ some .forward) :
    drawsUpTo commands i m = drawsUpTo commands i' m := by
  ext j
  rw [mem_drawsUpTo, mem_drawsUpTo, h.sameScope_iff]
  constructor
  · rintro ⟨hjm, hj, rfl | hscope⟩
    · exact absurd hj hforward
    · exact ⟨hjm, hj, hscope⟩
  · rintro ⟨hjm, hj, hscope⟩
    exact ⟨hjm, hj, Or.inr hscope⟩

theorem drawsUpTo_of_forward (hforward : commands[i]? = some .forward) (him : i < m) :
    drawsUpTo commands i m = insert i (drawsUpTo commands (i + 1) m) := by
  have hfollows : Follows commands i (i + 1) := .command hforward rfl
  ext j
  rw [Finset.mem_insert, mem_drawsUpTo, mem_drawsUpTo, hfollows.sameScope_iff]
  constructor
  · rintro ⟨hjm, hj, rfl | hscope⟩
    · exact Or.inl rfl
    · exact Or.inr ⟨hjm, hj, hscope⟩
  · rintro (rfl | ⟨hjm, hj, hscope⟩)
    · exact ⟨him, hforward, Or.inl rfl⟩
    · exact ⟨hjm, hj, Or.inr hscope⟩

theorem card_drawsUpTo_of_forward (hforward : commands[i]? = some .forward) (him : i < m) :
    (drawsUpTo commands i m).card = (drawsUpTo commands (i + 1) m).card + 1 := by
  rw [drawsUpTo_of_forward hforward him]
  apply Finset.card_insert_of_notMem
  intro hi
  obtain ⟨_, _, hscope⟩ := mem_drawsUpTo.mp hi
  have := hscope.le
  omega

/-! ## Where runs begin -/

/-- A run may begin where a scope opens and behind a mark. -/
def RunStart (commands : List Command) (s : Nat) : Prop :=
  Opens commands s ∨ ∃ k, s = k + 1 ∧ commands[k]? = some .taperMark

theorem NextMark.mem_leadUp (h : NextMark commands i m) (hj : j ∈ drawsUpTo commands i m) :
    j ∈ leadUp commands m := by
  obtain ⟨hjm, hforward, hscope⟩ := mem_drawsUpTo.mp hj
  exact Brackets.mem_leadUp.mpr ⟨hjm, hforward, h.of_sameScope hscope hjm.le⟩

/-- Before the first segment that leads up to a mark, all of them are still to come. -/
theorem NextMark.leadUp_eq (h : NextMark commands i m)
    (hstart : ∀ j ∈ leadUp commands m, i ≤ j) :
    leadUp commands m = drawsUpTo commands i m := by
  ext j
  constructor
  · intro hj
    obtain ⟨hjm, hforward, hnext⟩ := Brackets.mem_leadUp.mp hj
    have hscope := h.sameScope.of_right hnext.sameScope (hstart j hj)
    exact mem_drawsUpTo.mpr ⟨hjm, hforward, hscope⟩
  · exact h.mem_leadUp

/-- No segment that leads up to a mark stands before the beginning of the run. -/
theorem RunStart.leadUp_eq (hstart : RunStart commands s) (h : NextMark commands s m) :
    leadUp commands m = drawsUpTo commands s m := by
  apply h.leadUp_eq
  intro j hj
  obtain ⟨_, _, hnext⟩ := mem_leadUp.mp hj
  by_contra hbefore
  have hscope : SameScope commands j s := hnext.sameScope.of_right h.sameScope (by omega)
  rcases hstart with hopens | ⟨k, rfl, hmark⟩
  · have := hopens.eq_of_sameScope hscope
    omega
  · have hmarked : SameScope commands k (k + 1) := (Follows.command hmark rfl).sameScope
    have hkm : k < m := h.sameScope.le
    exact hnext.first k hkm (hscope.of_right hmarked (by omega)) hmark

/-- The run before a mark is made of the segments that lead up to it. -/
theorem InScope.run_eq_leadUp (h : InScope commands o m)
    (hmark : commands[m]? = some .taperMark) : run commands o m = leadUp commands m := by
  ext j
  rw [mem_run, mem_leadUp]
  constructor
  · rintro ⟨⟨hjm, hforward, hscope⟩, hfirst⟩
    refine ⟨hjm, hforward, hmark, hscope.of_left h.sameScope hjm.le, ?_⟩
    intro k hkm hjk
    rcases Nat.eq_or_lt_of_le hjk.le with rfl | hlt
    · simp [hforward]
    · exact hfirst k hkm hlt (hscope.trans hjk)
  · rintro ⟨hjm, hforward, hnext⟩
    have hoj := h.le_of_sameScope hnext.sameScope
    have hscope := h.sameScope.of_right hnext.sameScope hoj
    refine ⟨⟨hjm, hforward, hscope⟩, ?_⟩
    intro k hkm hjk hk
    exact hnext.first k hkm (hscope.of_left hk hjk.le)

end Brackets

end PlantGrowth
