import PlantGrowth.Grammar.Basic
import Mathlib.Algebra.Order.Ring.Nat
import Mathlib.Data.List.Basic

/-!
# Growth up to a cap

Growing looks at the length of a word after each pass and never before the first one.  So it stops
at the first pass that has led beyond the cap, and makes all of them if there is none; a word may
shrink again, but growing does not wait for that.  The word that is kept has outgrown the cap by one
pass at most, which lengthens it by the longest replacement for each symbol.
-/

namespace PlantGrowth

namespace Grammar

/-- A pass over a word, told symbol by symbol: a rule puts its replacement, and a symbol without
one stays. -/
inductive RewritesTo (g : Grammar) : Word → Word → Prop
  | nil : g.RewritesTo [] []
  | rule {symbol : Char} {replacement word next : Word} :
      g.rule? symbol = some replacement → g.RewritesTo word next →
        g.RewritesTo (symbol :: word) (replacement ++ next)
  | kept {symbol : Char} {word next : Word} :
      g.rule? symbol = none → g.RewritesTo word next →
        g.RewritesTo (symbol :: word) (symbol :: next)

/-- No replacement has more than `m` symbols. -/
def RulesWithin (g : Grammar) (m : Nat) : Prop :=
  ∀ symbol replacement, g.rule? symbol = some replacement → replacement.length ≤ m

variable {g : Grammar} {m cap : Nat}

theorem rulesWithin_ofStart (start : Word) (m : Nat) : (ofStart start).RulesWithin m := by
  intro symbol replacement hrule
  simp at hrule

theorem RulesWithin.withRule (h : g.RulesWithin m) (symbol : Char) {replacement : Word}
    (hlength : replacement.length ≤ m) : (g.withRule symbol replacement).RulesWithin m := by
  intro c right hrule
  rw [rule?_withRule] at hrule
  split at hrule
  · cases hrule
    exact hlength
  · exact h c right hrule

theorem derive_cons (symbol : Char) (word : Word) :
    g.derive (symbol :: word) = g.replacement symbol ++ g.derive word :=
  List.flatMap_cons

theorem rewritesTo_iff {word next : Word} : g.RewritesTo word next ↔ next = g.derive word := by
  constructor
  · intro h
    induction h with
    | nil => rfl
    | rule hrule _ ih => simp [derive_cons, replacement, hrule, ih]
    | kept hrule _ ih => simp [derive_cons, replacement, hrule, ih]
  · rintro rfl
    induction word with
    | nil => exact .nil
    | cons symbol word ih =>
        rw [derive_cons]
        cases hrule : g.rule? symbol with
        | none => simpa [replacement, hrule] using .kept hrule ih
        | some replacement => simpa [Grammar.replacement, hrule] using .rule hrule ih

theorem eq_iterate {words : Nat → Word} (hstart : words 0 = g.start)
    (hpass : ∀ k, g.RewritesTo (words k) (words (k + 1))) (k : Nat) :
    words k = g.iterate k := by
  induction k with
  | zero => exact hstart
  | succ k ih => rw [iterate, ← ih, rewritesTo_iff.mp (hpass k)]

/-! ## Where growing stops -/

/-- The first of the `left` passes behind pass `done` after which the word is longer than the
cap. -/
def firstOver? (g : Grammar) (cap done left : Nat) : Option Nat :=
  (List.range' (done + 1) left).find? fun k => cap < (g.iterate k).length

theorem expandFrom_iterate (g : Grammar) (cap left done : Nat) :
    g.expandFrom cap left done (g.iterate done) =
      let passes := (g.firstOver? cap done left).getD (done + left)
      ⟨g.iterate passes, passes, passes < done + left⟩ := by
  induction left generalizing done with
  | zero => simp [expandFrom, firstOver?]
  | succ left ih =>
      have hnext : g.derive (g.iterate done) = g.iterate (done + 1) := rfl
      have hbehind : done + (left + 1) = done + 1 + left := by omega
      rw [expandFrom, hnext, firstOver?, List.range'_succ, List.find?_cons, hbehind]
      by_cases hover : cap < (g.iterate (done + 1)).length
      · simp [hover]
      · simp only [hover, if_false, decide_false]
        exact ih (done + 1)

theorem expand_eq (g : Grammar) (n cap : Nat) :
    g.expand n cap =
      let passes := (g.firstOver? cap 0 n).getD n
      ⟨g.iterate passes, passes, passes < n⟩ := by
  have hrun := g.expandFrom_iterate cap n 0
  rwa [Nat.zero_add] at hrun

/-- Growing stops before the last pass exactly when it says so. -/
theorem expand_truncated_iff (g : Grammar) (n cap : Nat) :
    (g.expand n cap).truncated = true ↔ (g.expand n cap).passes < n := by
  rw [expand_eq]
  exact decide_eq_true_iff

/-! ## How long a word gets -/

theorem length_replacement_le (hm : 1 ≤ m) (hrules : g.RulesWithin m) (symbol : Char) :
    (g.replacement symbol).length ≤ m := by
  cases hrule : g.rule? symbol with
  | none => simpa [replacement, hrule] using hm
  | some replacement =>
      simpa [Grammar.replacement, hrule] using hrules symbol replacement hrule

theorem length_derive_le (hm : 1 ≤ m) (hrules : g.RulesWithin m) (word : Word) :
    (g.derive word).length ≤ m * word.length := by
  induction word with
  | nil => exact Nat.zero_le _
  | cons symbol word ih =>
      calc (g.derive (symbol :: word)).length
          = (g.replacement symbol).length + (g.derive word).length := by
            rw [derive_cons, List.length_append]
        _ ≤ m + m * word.length := Nat.add_le_add (length_replacement_le hm hrules symbol) ih
        _ = m * (symbol :: word).length := by rw [List.length_cons, Nat.mul_succ, Nat.add_comm]

/-- A pass is only made over a word within the bound, so the last one is the only one that can
lead beyond it. -/
theorem length_expandFrom_le (hm : 1 ≤ m) (hrules : g.RulesWithin m) {bound : Nat}
    (hcap : cap ≤ bound) (left done : Nat) {word : Word} (hword : word.length ≤ bound) :
    (g.expandFrom cap left done word).word.length ≤ m * bound := by
  induction left generalizing done word with
  | zero => exact hword.trans (Nat.le_mul_of_pos_left bound hm)
  | succ left ih =>
      rw [expandFrom]
      split
      · exact (length_derive_le hm hrules word).trans (Nat.mul_le_mul_left m hword)
      · rename_i hwithin
        exact ih (done + 1) ((Nat.le_of_not_lt hwithin).trans hcap)

/-- Growing is passing over the start word again and again, up to the first pass that leads beyond
the cap. -/
theorem expand_stops_behind_cap (g : Grammar) (n cap : Nat) {words : Nat → Word}
    (hstart : words 0 = g.start) (hpass : ∀ k, g.RewritesTo (words k) (words (k + 1))) :
    let grown := g.expand n cap
    grown.passes = ((List.range' 1 n).find? fun k => cap < (words k).length).getD n ∧
      grown.word = words grown.passes ∧
      (grown.truncated = true ↔ grown.passes < n) ∧
      ∀ m, 1 ≤ m → g.RulesWithin m → grown.word.length ≤ m * max g.start.length cap := by
  obtain rfl : words = g.iterate := funext (eq_iterate hstart hpass)
  refine ⟨?_, ?_, g.expand_truncated_iff n cap, ?_⟩
  · rw [expand_eq]
    rfl
  · rw [expand_eq]
  · intro m hm hrules
    exact length_expandFrom_le hm hrules (le_max_right _ _) n 0 (le_max_left _ _)

/-- A grammar whose start word shrinks in the first pass: every `B` vanishes. -/
def molting : Grammar :=
  ((ofStart ['A', 'B', 'B', 'B']).withRule 'A' ['A', 'B', 'A']).withRule 'B' []

/-- The start word has outgrown the cap already, the first pass leads back to it, and the second
one beyond it again. -/
theorem expand_stops_behind_cap_molting :
    (molting.expand 4 3).passes = 2 ∧
      (molting.expand 4 3).word = molting.iterate 2 ∧
      (molting.expand 4 3).truncated = true ∧
      (molting.expand 4 3).word.length ≤ 3 * max 4 3 := by
  have hpass : ∀ k, molting.RewritesTo (molting.iterate k) (molting.iterate (k + 1)) :=
    fun _ => rewritesTo_iff.mpr rfl
  have hrules : molting.RulesWithin 3 :=
    ((rulesWithin_ofStart _ 3).withRule 'A' (by decide)).withRule 'B' (by decide)
  obtain ⟨hpasses, hword, htruncated, hlength⟩ :=
    expand_stops_behind_cap molting 4 3 rfl hpass
  have htwo : (molting.expand 4 3).passes = 2 := hpasses
  refine ⟨htwo, htwo ▸ hword, ?_, hlength 3 (by decide) hrules⟩
  rw [htruncated, htwo]
  decide

end Grammar

end PlantGrowth
