import PlantGrowth.Config.Presets
import PlantGrowth.Grammar.RuleText
import PlantGrowth.Proofs.BalancedWords
import PlantGrowth.Proofs.StackDepth
import Mathlib.Data.Finset.Lattice.Fold
import Mathlib.Data.Finset.Range
import Mathlib.Order.Lattice.Nat

/-!
# Balanced grammars

A pass puts a balanced word in place of a symbol and leaves the brackets alone.  At the border
between two replacements the word is as high as it was between the two symbols, and within a
replacement it is higher by no more than the replacement itself is.  So a pass keeps a word
balanced and adds to its nesting at most the nesting of a replacement, and an expansion does so
once for each pass.  On such a word the stack of a walk is as deep as its position is high.
-/

namespace PlantGrowth

open Command

namespace Brackets

/-- The number of brackets that are open at the deepest place. -/
def nesting (commands : List Command) : Nat :=
  (Finset.range (commands.length + 1)).sup fun k => (height commands k).toNat

/-- No position is lower than `low` or higher than `high`. -/
def Between (low high : Int) (commands : List Command) : Prop :=
  ∀ k ≤ commands.length, low ≤ height commands k ∧ height commands k ≤ high

variable {commands front back rest : List Command} {c : Command} {low high : Int} {n : Nat}

theorem nesting_le_iff :
    nesting commands ≤ n ↔ ∀ k ≤ commands.length, height commands k ≤ n := by
  simp only [nesting, Finset.sup_le_iff, Finset.mem_range, Nat.lt_succ_iff, Int.toNat_le]

theorem Balanced.height_sub_lowest (h : Balanced commands) {k : Nat} (hk : k ≤ commands.length) :
    height commands k - lowest commands k = height commands k := by
  rw [lowest_eq_zero (fun _ => h.height_nonneg) hk, Int.sub_zero]

theorem balanced_nesting_le_iff :
    Balanced commands ∧ nesting commands ≤ n ↔
      Between 0 n commands ∧ height commands commands.length = 0 := by
  rw [nesting_le_iff]
  constructor
  · rintro ⟨hbalanced, hnesting⟩
    refine ⟨?_, (balanced_iff_sameScope.mp hbalanced).height_eq⟩
    intro k hk
    exact ⟨hbalanced.height_nonneg hk, hnesting k hk⟩
  · rintro ⟨hbetween, hend⟩
    refine ⟨balanced_iff_sameScope.mpr ⟨Nat.zero_le _, hend, ?_⟩, ?_⟩
    · intro k _ hk
      exact (hbetween k hk).1
    · intro k hk
      exact (hbetween k hk).2

namespace Between

theorem mono {low' high' : Int} (h : Between low high commands) (hlow : low' ≤ low)
    (hhigh : high ≤ high') : Between low' high' commands := by
  intro k hk
  have := h k hk
  omega

theorem zero (h : Between low high commands) : low ≤ 0 ∧ 0 ≤ high :=
  h 0 (Nat.zero_le _)

theorem tail (h : Between low high (c :: rest)) :
    Between (low - c.rise) (high - c.rise) rest := by
  intro k hk
  have hbound := h (k + 1) (Nat.succ_le_succ hk)
  rw [height_cons] at hbound
  omega

theorem append (hfront : Between low high front)
    (hback : Between (low - height front front.length) (high - height front front.length) back) :
    Between low high (front ++ back) := by
  intro k hk
  by_cases hle : k ≤ front.length
  · rw [height_append_left hle]
    exact hfront k hle
  · obtain ⟨j, rfl⟩ : ∃ j, k = front.length + j := ⟨k - front.length, by omega⟩
    rw [List.length_append] at hk
    rw [height_append_right]
    have := hback j (by omega)
    omega

end Between

theorem height_length_append (front back : List Command) :
    height (front ++ back) (front ++ back).length =
      height front front.length + height back back.length := by
  rw [List.length_append, height_append_right]

theorem height_singleton (c : Command) : height [c] [c].length = c.rise := by
  simp [height]

end Brackets

open Brackets

namespace Grammar

/-- The start word and all replacements are balanced, and brackets have no replacement. -/
structure KeepsBalance (g : Grammar) : Prop where
  start : Balanced (ofWord g.start)
  rules : ∀ symbol replacement, g.rule? symbol = some replacement →
    Balanced (ofWord replacement)
  push : g.rule? '[' = none
  pop : g.rule? ']' = none

/-- The largest nesting of a replacement. -/
def ruleNesting (g : Grammar) : Nat :=
  (g.rules.map fun rule => nesting (ofWord (g.replacement rule.1))).foldl max 0

variable {g : Grammar}

theorem mem_rules_of_rule? {symbol : Char} {replacement : Word}
    (hrule : g.rule? symbol = some replacement) : ∃ rule ∈ g.rules, rule.1 = symbol := by
  by_contra hnone
  have hlookup : g.rules.lookup symbol = none := by
    rw [List.lookup_eq_none_iff]
    intro rule hrule
    simpa using fun heq => hnone ⟨rule, hrule, heq.symm⟩
  simp [rule?, hlookup] at hrule

theorem foldl_max_le_iff {depths : List Nat} {least n : Nat} :
    depths.foldl max least ≤ n ↔ least ≤ n ∧ ∀ d ∈ depths, d ≤ n := by
  induction depths generalizing least with
  | nil => simp
  | cons d depths ih =>
      rw [List.foldl_cons, ih, max_le_iff, List.forall_mem_cons, and_assoc]

theorem nesting_le_ruleNesting {symbol : Char} {replacement : Word}
    (hrule : g.rule? symbol = some replacement) :
    nesting (ofWord replacement) ≤ g.ruleNesting := by
  obtain ⟨rule, hmem, rfl⟩ := mem_rules_of_rule? hrule
  have hreplacement : g.replacement rule.1 = replacement := by simp [Grammar.replacement, hrule]
  rw [← hreplacement]
  exact (foldl_max_le_iff.mp (le_refl g.ruleNesting)).2 _
    (List.mem_map.mpr ⟨rule, hmem, rfl⟩)

namespace KeepsBalance

variable (h : g.KeepsBalance)

include h

/-- A replacement climbs as the symbol does, and within the nesting of the rules of it. -/
theorem between_replacement {symbol : Char} {rest : List Command} {low high : Int}
    (hword : Between low high (ofSymbol symbol :: rest)) :
    Between low (high + g.ruleNesting) (ofWord (g.replacement symbol)) ∧
      height (ofWord (g.replacement symbol)) (ofWord (g.replacement symbol)).length =
        (ofSymbol symbol).rise := by
  cases hrule : g.rule? symbol with
  | none =>
      have hkept : ofWord (g.replacement symbol) = [ofSymbol symbol] := by
        simp [replacement, hrule, ofWord]
      rw [hkept]
      refine ⟨?_, height_singleton _⟩
      intro k hk
      have hbound := hword k (by simp at hk ⊢; omega)
      rw [show ofSymbol symbol :: rest = [ofSymbol symbol] ++ rest from rfl,
        height_append_left hk] at hbound
      omega
  | some word =>
      have hput : g.replacement symbol = word := by simp [replacement, hrule]
      have hrise : (ofSymbol symbol).rise = 0 := by
        apply rise_ofSymbol_eq_zero
        · intro hpush
          simp [hpush, h.push] at hrule
        · intro hpop
          simp [hpop, h.pop] at hrule
      obtain ⟨hbetween, hend⟩ :=
        balanced_nesting_le_iff.mp ⟨h.rules _ _ hrule, nesting_le_ruleNesting hrule⟩
      have hzero := hword.zero
      rw [hput, hrise]
      exact ⟨hbetween.mono hzero.1 (by omega), hend⟩

theorem between_derive {word : Word} {low high : Int} (hword : Between low high (ofWord word)) :
    Between low (high + g.ruleNesting) (ofWord (g.derive word)) ∧
      height (ofWord (g.derive word)) (ofWord (g.derive word)).length =
        height (ofWord word) (ofWord word).length := by
  -- the bounds are those of what is left, so each symbol shifts them by its rise
  induction word generalizing low high with
  | nil => exact ⟨hword.mono (le_refl _) (by omega), rfl⟩
  | cons symbol word ih =>
      have hderive : ofWord (g.derive (symbol :: word)) =
          ofWord (g.replacement symbol) ++ ofWord (g.derive word) := by
        simp [derive, ofWord]
      obtain ⟨hfirst, hclimb⟩ := h.between_replacement hword
      obtain ⟨hothers, hend⟩ := ih hword.tail
      rw [hderive, height_length_append, hclimb, hend]
      refine ⟨hfirst.append ?_, ?_⟩
      · rw [hclimb]
        exact hothers.mono (le_refl _) (by omega)
      · exact (height_cons _ _ _).symm

/-- A pass keeps a word balanced and makes it deeper by the nesting of the rules at most. -/
theorem derive {word : Word} {n : Nat} (hbalanced : Balanced (ofWord word))
    (hnesting : nesting (ofWord word) ≤ n) :
    Balanced (ofWord (g.derive word)) ∧
      nesting (ofWord (g.derive word)) ≤ n + g.ruleNesting := by
  obtain ⟨hbetween, hend⟩ := balanced_nesting_le_iff.mp ⟨hbalanced, hnesting⟩
  obtain ⟨hbetween', hend'⟩ := h.between_derive hbetween
  rw [balanced_nesting_le_iff, hend', Nat.cast_add]
  exact ⟨hbetween', hend⟩

theorem expandFrom (cap left : Nat) {done n : Nat} {word : Word}
    (hbalanced : Balanced (ofWord word))
    (hnesting : nesting (ofWord word) ≤ n + done * g.ruleNesting) :
    Balanced (ofWord (g.expandFrom cap left done word).word) ∧
      nesting (ofWord (g.expandFrom cap left done word).word) ≤
        n + (g.expandFrom cap left done word).passes * g.ruleNesting := by
  induction left generalizing done word with
  | zero => exact ⟨hbalanced, hnesting⟩
  | succ left ih =>
      obtain ⟨hbalanced', hnesting'⟩ := h.derive hbalanced hnesting
      rw [Nat.add_assoc, ← Nat.succ_mul] at hnesting'
      simp only [Grammar.expandFrom]
      split
      · exact ⟨hbalanced', hnesting'⟩
      · exact ih hbalanced' hnesting'

theorem expand (passes cap : Nat) :
    Balanced (ofWord (g.expand passes cap).word) ∧
      nesting (ofWord (g.expand passes cap).word) ≤
        nesting (ofWord g.start) + (g.expand passes cap).passes * g.ruleNesting :=
  h.expandFrom cap passes h.start (by simp)

end KeepsBalance

/-! ## Telling a balanced grammar -/

theorem keepsBalance_iff :
    g.KeepsBalance ↔ Balanced (ofWord g.start) ∧
      (∀ rule ∈ g.rules, Balanced (ofWord (g.replacement rule.1))) ∧
        g.rule? '[' = none ∧ g.rule? ']' = none := by
  constructor
  · intro h
    refine ⟨h.start, ?_, h.push, h.pop⟩
    intro rule hmem
    cases hrule : g.rule? rule.1 with
    | none =>
        have hother := List.lookup_eq_none_iff.mp hrule rule hmem
        simp at hother
    | some replacement => simpa [Grammar.replacement, hrule] using h.rules _ _ hrule
  · rintro ⟨hstart, hrules, hpush, hpop⟩
    refine ⟨hstart, ?_, hpush, hpop⟩
    intro symbol replacement hrule
    obtain ⟨rule, hmem, rfl⟩ := mem_rules_of_rule? hrule
    simpa [Grammar.replacement, hrule] using hrules rule hmem

instance (g : Grammar) : Decidable g.KeepsBalance := decidable_of_iff _ keepsBalance_iff.symm

end Grammar

/-! ## Walking a balanced word -/

namespace Setting

variable {α β σ : Type} [Scalar α] {S : Setting α β σ} {n : Nat}

/-- The walk closes only what it has opened, and has at most `n` branches open at a time. -/
structure NestsWithin (S : Setting α β σ) (n : Nat) : Prop where
  closes : ∀ v ∈ S.course, v.command = .pop → v.walk.stack ≠ []
  ends : S.tour.stoppedEarly = false → S.tour.walk.stack = []
  depth : S.tour.walk.maxDepth ≤ n

theorem stack_ne_nil_of_balanced (h : Balanced S.commands) {v : Visit α β σ} (hv : v ∈ S.course)
    (hpop : v.command = .pop) : v.walk.stack ≠ [] := by
  have hclose : S.commands[v.index]? = some .pop := hpop ▸ command_at_index hv
  have hlt : v.index < S.commands.length := (List.getElem?_eq_some_iff.mp hclose).1
  have hdeep := deepAt_of_mem hv
  have hafter := h.height_nonneg (k := v.index + 1) hlt
  rw [DeepAt, h.height_sub_lowest hlt.le] at hdeep
  rw [height_succ_of_pop hclose] at hafter
  intro hnone
  rw [hnone, List.length_nil] at hdeep
  omega

theorem tour_stack_eq_nil_of_balanced (h : Balanced S.commands)
    (hread : S.tour.stoppedEarly = false) : S.tour.walk.stack = [] := by
  have hall := length_course_of_read hread
  have hend := (balanced_iff_sameScope.mp h).height_eq
  have hdeep := deepAt_tour S
  rw [DeepAt, hall, h.height_sub_lowest (le_refl _), hend, height_zero] at hdeep
  exact List.length_eq_zero_iff.mp (by omega)

theorem nestsWithin_of_balanced (h : Balanced S.commands) (hn : nesting S.commands ≤ n) :
    S.NestsWithin n where
  closes := fun _ hv hpop => stack_ne_nil_of_balanced h hv hpop
  ends := tour_stack_eq_nil_of_balanced h
  depth := by
    apply tour_maxDepth_le
    intro k hk
    rw [h.height_sub_lowest hk]
    exact nesting_le_iff.mp hn k hk

end Setting

/-! ## Growing and walking -/

def Preset.grammar (p : Preset) : Grammar := Grammar.ofText p.start p.rules

/-- A grammar of balanced words grows balanced words, whose nesting every walk keeps to. -/
theorem Grammar.growth_stays_balanced :
    (∀ p ∈ Preset.all, p.grammar.KeepsBalance) ∧
      ∀ g : Grammar, g.KeepsBalance → ∀ passes cap : Nat,
        let grown := g.expand passes cap
        let bound := nesting (ofWord g.start) + grown.passes * g.ruleNesting
        Balanced (ofWord grown.word) ∧ nesting (ofWord grown.word) ≤ bound ∧
          ∀ {α β σ : Type} [Scalar α] (S : Setting α β σ),
            (S.withWord grown.word).NestsWithin bound := by
  refine ⟨by decide +kernel, ?_⟩
  intro g h passes cap
  obtain ⟨hbalanced, hnesting⟩ := h.expand passes cap
  exact ⟨hbalanced, hnesting, fun _ => Setting.nestsWithin_of_balanced hbalanced hnesting⟩

def Grammar.twig : Grammar := ⟨"X".toList, [('X', "F[!X]X".toList)]⟩

theorem Grammar.growth_stays_balanced_twig :
    twig.KeepsBalance ∧ (twig.expand 2 100).word = "F[!F[!X]X]F[!X]X".toList ∧
      nesting (ofWord (twig.expand 2 100).word) ≤ 2 ∧
      ((Setting.shrub Float32 9).withWord (twig.expand 2 100).word).NestsWithin 2 := by
  have hbalance : twig.KeepsBalance := by decide
  have hbound :
      nesting (ofWord twig.start) + (twig.expand 2 100).passes * twig.ruleNesting = 2 := by
    decide
  obtain ⟨_, hnesting, hwalk⟩ := Grammar.growth_stays_balanced.2 twig hbalance 2 100
  rw [hbound] at hnesting hwalk
  exact ⟨hbalance, by decide, hnesting, hwalk (Setting.shrub Float32 9)⟩

end PlantGrowth
