import PlantGrowth.Command
import Mathlib.Algebra.BigOperators.Group.List.Basic
import Mathlib.Algebra.Order.Ring.Int
import Mathlib.Data.Nat.Find

/-!
# The bracket structure of a word

Brackets are matched by counting alone: the height of a position is the number of `push` commands
before it less the number of `pop` commands.  Two positions lie in the same scope when they have
one height and nothing between them is lower, and a `push` and a `pop` match when what stands
between them is such a stretch.  No stack is used here, so that what a walk does with its stack can
be compared with the counts.
-/

namespace PlantGrowth

def Command.rise : Command → Int
  | .push => 1
  | .pop => -1
  | _ => 0

namespace Brackets

/-- The `push` commands before position `i` less the `pop` commands. -/
def height (commands : List Command) (i : Nat) : Int :=
  ((commands.take i).map Command.rise).sum

variable {commands : List Command} {i j k m p q : Nat}

theorem height_succ {c : Command} (hc : commands[i]? = some c) :
    height commands (i + 1) = height commands i + c.rise := by
  simp only [height, List.take_add_one, hc, Option.toList_some, List.map_append, List.map_cons,
    List.map_nil, List.sum_append, List.sum_singleton]

theorem height_succ_of_push (hc : commands[i]? = some .push) :
    height commands (i + 1) = height commands i + 1 :=
  height_succ hc

theorem height_succ_of_pop (hc : commands[i]? = some .pop) :
    height commands (i + 1) = height commands i - 1 :=
  height_succ hc

theorem height_succ_of_rise_eq_zero {c : Command}
    (hc : commands[i]? = some c) (hrise : c.rise = 0) :
    height commands (i + 1) = height commands i := by
  rw [height_succ hc, hrise, Int.add_zero]

/-- Every command climbs or descends by one at most; behind the end nothing does. -/
theorem height_succ_cases (commands : List Command) (i : Nat) :
    commands[i]? = some .push ∧ height commands (i + 1) = height commands i + 1 ∨
      commands[i]? = some .pop ∧ height commands (i + 1) = height commands i - 1 ∨
      height commands (i + 1) = height commands i := by
  cases hc : commands[i]? with
  | none =>
      refine Or.inr (Or.inr ?_)
      have hi : commands.length ≤ i := List.getElem?_eq_none_iff.mp hc
      simp [height, List.take_of_length_le hi, List.take_of_length_le (hi.trans (Nat.le_succ i))]
  | some c =>
      cases c with
      | push => exact Or.inl ⟨rfl, height_succ_of_push hc⟩
      | pop => exact Or.inr (Or.inl ⟨rfl, height_succ_of_pop hc⟩)
      | _ => exact Or.inr (Or.inr (height_succ_of_rise_eq_zero hc rfl))

/-! ## Scopes -/

/-- Position `j` lies in the scope of position `i`, not before it: no bracket between the two is
left open, and none closes what was open at `i`. -/
structure SameScope (commands : List Command) (i j : Nat) : Prop where
  le : i ≤ j
  height_eq : height commands j = height commands i
  above : ∀ k, i ≤ k → k ≤ j → height commands i ≤ height commands k

instance (commands : List Command) (i j : Nat) : Decidable (SameScope commands i j) :=
  decidable_of_iff
    (i ≤ j ∧ height commands j = height commands i ∧
      ∀ k < j + 1, i ≤ k → height commands i ≤ height commands k)
    ⟨fun ⟨hle, heq, habove⟩ => ⟨hle, heq, fun k hik hkj => habove k (by omega) hik⟩,
      fun h => ⟨h.le, h.height_eq, fun k hkj hik => h.above k hik (by omega)⟩⟩

namespace SameScope

theorem refl (commands : List Command) (i : Nat) : SameScope commands i i := by
  refine ⟨le_refl i, rfl, ?_⟩
  intro k hik hki
  rw [Nat.le_antisymm hki hik]

theorem trans (hij : SameScope commands i j) (hjk : SameScope commands j k) :
    SameScope commands i k := by
  refine ⟨hij.le.trans hjk.le, hjk.height_eq.trans hij.height_eq, ?_⟩
  intro l hil hlk
  rcases Nat.le_total l j with hlj | hjl
  · exact hij.above l hil hlj
  · have habove := hjk.above l hjl hlk
    rwa [hij.height_eq] at habove

/-- Of three positions in order, the middle one lies in the scope of the first if the last one
lies in the scope of both. -/
theorem of_right (hik : SameScope commands i k) (hjk : SameScope commands j k) (hij : i ≤ j) :
    SameScope commands i j := by
  refine ⟨hij, hjk.height_eq.symm.trans hik.height_eq, ?_⟩
  intro l hil hlj
  exact hik.above l hil (hlj.trans hjk.le)

/-- Of three positions in order, the last one lies in the scope of the middle one if both lie in
the scope of the first. -/
theorem of_left (hij : SameScope commands i j) (hik : SameScope commands i k) (hjk : j ≤ k) :
    SameScope commands j k := by
  refine ⟨hjk, hik.height_eq.trans hij.height_eq.symm, ?_⟩
  intro l hjl hlk
  rw [hij.height_eq]
  exact hik.above l (hij.le.trans hjl) hlk

theorem succ_right {c : Command} (h : SameScope commands i j)
    (hc : commands[j]? = some c) (hrise : c.rise = 0) : SameScope commands i (j + 1) := by
  have hheight := height_succ_of_rise_eq_zero hc hrise
  refine ⟨h.le.trans (Nat.le_succ j), hheight.trans h.height_eq, ?_⟩
  intro k hik hkj
  rcases Nat.le_or_eq_of_le_succ hkj with hle | rfl
  · exact h.above k hik hle
  · rw [hheight, h.height_eq]

theorem command_ne_pop (h : SameScope commands i j) (hij : i < j) :
    commands[i]? ≠ some .pop := by
  intro hpop
  have habove := h.above (i + 1) (Nat.le_succ i) hij
  rw [height_succ_of_pop hpop] at habove
  omega

/-- As long as its scope lasts, the inside of a branch stands higher than the branch. -/
theorem height_lt_of_push (h : SameScope commands (p + 1) i) (hpush : commands[p]? = some .push)
    (hpk : p < k) (hki : k ≤ i) : height commands p < height commands k := by
  have habove := h.above k hpk hki
  rw [height_succ_of_push hpush] at habove
  omega

end SameScope

/-! ## Matching brackets -/

/-- The `push` at `p` and the `pop` at `q` belong together. -/
structure Matched (commands : List Command) (p q : Nat) : Prop where
  opens : commands[p]? = some .push
  closes : commands[q]? = some .pop
  inside : SameScope commands (p + 1) q

namespace Matched

theorem lt (h : Matched commands p q) : p < q := h.inside.le

theorem height_lt (h : Matched commands p q) (hpk : p < k) (hkq : k ≤ q) :
    height commands p < height commands k :=
  h.inside.height_lt_of_push h.opens hpk hkq

theorem height_succ_close (h : Matched commands p q) :
    height commands (q + 1) = height commands p := by
  rw [height_succ_of_pop h.closes, h.inside.height_eq, height_succ_of_push h.opens]
  omega

/-- A whole pair of brackets is passed over within one scope. -/
theorem sameScope (h : Matched commands p q) : SameScope commands p (q + 1) := by
  refine ⟨by have := h.lt; omega, h.height_succ_close, ?_⟩
  intro k hpk hkq
  rcases Nat.eq_or_lt_of_le hpk with rfl | hlt
  · exact le_refl _
  · rcases Nat.le_or_eq_of_le_succ hkq with hle | rfl
    · exact (h.height_lt hlt hle).le
    · exact h.height_succ_close.ge

/-- Of two pairs of brackets, the one that opens inside the other closes inside it. -/
theorem close_lt_close {p' q' : Nat} (h : Matched commands p q) (h' : Matched commands p' q')
    (hlt : p < p') (hinside : p' < q) : q' < q := by
  by_contra hcross
  have hhigher := h.height_lt hlt hinside.le
  have hlower := h'.height_lt hinside (by omega)
  have hclose := h.inside.height_eq
  rw [height_succ_of_push h.opens] at hclose
  omega

end Matched

/-- A `push` that the word climbs down from again has a `pop` of its own. -/
theorem exists_matched_of_push (hpush : commands[p]? = some .push) (hpk : p < k)
    (hlow : height commands k ≤ height commands p) : ∃ q, q < k ∧ Matched commands p q := by
  -- The match is the last command before the first position that is as low as the `push`.
  let Low (l : Nat) : Prop := p < l ∧ height commands l ≤ height commands p
  have hex : ∃ l, Low l := ⟨k, hpk, hlow⟩
  obtain ⟨hpl, hheight⟩ := Nat.find_spec hex
  have hfirst : ∀ l, p < l → l < Nat.find hex → height commands p < height commands l := by
    intro l hpl hlt
    by_contra hle
    exact Nat.find_min hex hlt ⟨hpl, by omega⟩
  have hkl : Nat.find hex ≤ k := Nat.find_min' hex ⟨hpk, hlow⟩
  have hopen := height_succ_of_push hpush
  obtain ⟨q, hq⟩ : ∃ q, Nat.find hex = q + 1 := ⟨Nat.find hex - 1, by omega⟩
  rw [hq] at hpl hheight hfirst hkl
  have hpq : p < q := by
    by_contra hge
    have hqp : q = p := by omega
    rw [hqp, hopen] at hheight
    omega
  have hbefore := hfirst q hpq (Nat.lt_succ_self q)
  refine ⟨q, by omega, hpush, ?_, hpq, ?_, ?_⟩
  · rcases height_succ_cases commands q with ⟨_, hup⟩ | ⟨hpop, _⟩ | hlevel
    · omega
    · exact hpop
    · omega
  · rcases height_succ_cases commands q with ⟨_, hup⟩ | ⟨_, hdown⟩ | hlevel
    · omega
    · omega
    · omega
  · intro l hpl hlq
    have := hfirst l hpl (by omega)
    omega

/-- A `pop` that stands higher than an earlier position has a `push` of its own since then. -/
theorem exists_matched_of_pop (hpop : commands[q]? = some .pop) (hkq : k ≤ q)
    (hlow : height commands k < height commands q) : ∃ p, k ≤ p ∧ Matched commands p q := by
  -- The match is the last position before the `pop` that lies lower.
  induction hgap : q - k using Nat.strong_induction_on generalizing k with
  | _ gap ih =>
      by_cases hlater : ∃ l, k < l ∧ l ≤ q ∧ height commands l < height commands q
      · obtain ⟨l, hkl, hlq, hlowl⟩ := hlater
        obtain ⟨p, hlp, hmatched⟩ := ih (q - l) (by omega) hlq hlowl rfl
        exact ⟨p, by omega, hmatched⟩
      · have hhigh : ∀ l, k < l → l ≤ q → height commands q ≤ height commands l := by
          intro l hkl hlq
          by_contra hlt
          exact hlater ⟨l, hkl, hlq, by omega⟩
        have hlt : k < q := by
          by_contra hge
          have hk : k = q := by omega
          rw [hk] at hlow
          omega
        have hnext := hhigh (k + 1) (Nat.lt_succ_self k) hlt
        rcases height_succ_cases commands k with ⟨hpush, hup⟩ | ⟨_, hdown⟩ | hlevel
        · refine ⟨k, le_refl k, hpush, hpop, hlt, by omega, ?_⟩
          intro l hkl hlq
          have := hhigh l hkl hlq
          omega
        · omega
        · omega

end Brackets

end PlantGrowth
