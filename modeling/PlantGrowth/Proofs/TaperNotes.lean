import PlantGrowth.Proofs.ScopeEnds
import PlantGrowth.Proofs.TaperRuns

/-!
# Notes of a run, kept and saved

A turtle notes the run that it is on and counts it down, and every open branch has put the note of
an earlier turtle away.  Each note is read from one position on: that of the turtle where it stands,
one that was put away behind the bracket that closes its branch.  Seen from there it names the first
mark of the scope, with the segments left before it, and a note of no mark is right as well.  A
branch that nothing closes never gives its note back, and that note names no mark: a mark that a
look-ahead has found past a branch stands behind the closing bracket.
-/

namespace PlantGrowth

open Brackets Scalar

variable {α β σ : Type} [Scalar α]

theorem scopeMarks_eq_empty {word : Word} {i : Nat}
    (hnothing : ∀ m, ¬ NextMark (Command.ofWord word) i m) : scopeMarks word i = ∅ := by
  apply Set.eq_empty_of_forall_notMem
  intro k hk
  obtain ⟨hmark, hscope⟩ := mem_scopeMarks_iff.mp hk
  obtain ⟨m, hnext⟩ := NextMark.exists_of_mark hmark hscope
  exact hnothing m hnext

namespace TaperRun

/-- The note is right for whoever goes on at position `i`, as the symbols from there on show. -/
structure RightAt (word : Word) (i : Nat) (t : TaperRun α) : Prop where
  ahead : ∀ m, t.mark = some m → IsLeast (scopeMarks word i) m
  counted : ∀ m, t.mark = some m → t.remaining = (scopeDraws word i i m).card
  small : t.remaining < 2 ^ 32
  idle : t.mark = none → t.remaining = 0 ∧ t.decay = 1
  unmarked : t.unmarked = true → t.mark = none ∧ scopeMarks word i = ∅

variable {taper : α} {word : Word} {i p : Nat} {t : TaperRun α}

theorem Fits.remaining_le (h : t.Fits taper (Command.ofWord word) i) :
    t.remaining ≤ word.length := by
  cases hm : t.mark with
  | none =>
      rw [(h.idle hm).1]
      exact Nat.zero_le _
  | some m =>
      have hlt : m < word.length := by
        have hcommands := (h.ahead m hm).lt_length
        rwa [Command.ofWord, List.length_map] at hcommands
      calc t.remaining
          = (drawsUpTo (Command.ofWord word) i m).card := h.counted m hm
        _ ≤ (Finset.range m).card := Finset.card_filter_le _ _
        _ = m := Finset.card_range m
        _ ≤ word.length := hlt.le

theorem Fits.rightAt (h : t.Fits taper (Command.ofWord word) i)
    (hlength : word.length < 2 ^ 32) : t.RightAt word i := by
  constructor
  · intro m hm
    exact nextMark_ofWord_iff.mp (h.ahead m hm)
  · intro m hm
    have hnext := h.ahead m hm
    obtain ⟨⟨_, hend, hmark, _⟩, _⟩ := nextMark_ofWord_iff.mp hnext
    have hlt := (List.getElem?_eq_some_iff.mp hmark).1
    rw [h.counted m hm]
    exact congrArg Finset.card (drawsUpTo_ofWord (SameScope.refl _ i) hlt.le hend.le)
  · exact h.remaining_le.trans_lt hlength
  · exact h.idle
  · intro hunmarked
    obtain ⟨hnone, hnothing⟩ := h.unmarked hunmarked
    exact ⟨hnone, scopeMarks_eq_empty hnothing⟩

theorem Fits.mark_eq_none_of_never_closed {commands : List Command} (h : t.Fits taper commands p)
    (hpush : commands[p]? = some .push) (hopen : ∀ q, ¬ Matched commands p q) :
    t.mark = none := by
  cases hm : t.mark with
  | none => rfl
  | some m =>
      have hnext := h.ahead m hm
      have hpm : p < m := hnext.lt (by simp [hpush])
      obtain ⟨q, _, hmatched⟩ := exists_matched_of_push hpush hpm hnext.sameScope.height_eq.le
      exact absurd hmatched (hopen q)

end TaperRun

namespace Setting

variable {S : Setting α β σ} {word : Word} {v : Visit α β σ}

/-- No note is ever stale.  At every visit that of the turtle is right for the position of the
visit.  Every turtle on the stack was saved by the bracket of a branch that is still open: its note
is right for the position behind the bracket that closes the branch, and names no mark if there is
no such bracket. -/
theorem notes_never_stale (hlength : word.length < 2 ^ 32) (hv : v ∈ (S.withWord word).course) :
    v.walk.turtle.taper.RightAt word v.index ∧
      ∀ inner saved outer, v.walk.stack = inner ++ saved :: outer →
        ∃ u ∈ (S.withWord word).course, u.index < v.index ∧ u.command = .push ∧
          u.walk.turtle = saved ∧ u.walk.stack = outer ∧
          (∀ q < v.index, ¬ Matched (Command.ofWord word) u.index q) ∧
          (∀ q, Matched (Command.ofWord word) u.index q →
            saved.taper.RightAt word (q + 1)) ∧
          ((∀ q, ¬ Matched (Command.ofWord word) u.index q) → saved.taper.mark = none) := by
  refine ⟨(fits_of_mem hv).rightAt hlength, ?_⟩
  intro inner saved outer hstack
  obtain ⟨u, hu, hpush, rfl, houter, hlt, hhigh⟩ := exists_open_of_mem_stack hv hstack
  have hfits := fits_of_mem hu
  refine ⟨u, hu, hlt, hpush, rfl, houter, ?_, ?_, ?_⟩
  · intro q hq hmatched
    have hclosed := hmatched.height_succ_close
    have hopen := hhigh (q + 1) (by have := hmatched.lt; omega) hq
    exact hopen.ne hclosed.symm
  · intro q hmatched
    exact (hfits.behind_branch hmatched).rightAt hlength
  · intro hopen
    exact hfits.mark_eq_none_of_never_closed (hpush ▸ command_at_index hu) hopen

/-- Before the first mark two branches are open.  The turtle of the inner one has noted the second
mark, with one segment left behind the branch; the outer one is never closed. -/
theorem notes_never_stale_open_branch :
    let word := "[F[F!]F!".toList
    word.length < 2 ^ 32 ∧ ∃ v ∈ ((shrub Float32 9).withWord word).course, v.index = 4 ∧
      v.walk.turtle.taper.mark = some 4 ∧ IsLeast (scopeMarks word 4) 4 ∧
        v.walk.turtle.taper.remaining = (scopeDraws word 4 4 4).card ∧
        ∃ saved first, v.walk.stack = [saved, first] ∧
          saved.taper.mark = some 7 ∧ IsLeast (scopeMarks word 6) 7 ∧
          saved.taper.remaining = (scopeDraws word 6 6 7).card ∧ first.taper.mark = none := by
  intro word
  have hlength : word.length < 2 ^ 32 := by decide
  have hcourse : 4 < ((shrub Float32 9).withWord word).course.length := by decide
  have hv := List.getElem_mem hcourse
  have hmark : ((shrub Float32 9).withWord word).course[4].walk.turtle.taper.mark = some 4 := rfl
  obtain ⟨saved, first, hsaved, hnoted⟩ : ∃ saved first,
      ((shrub Float32 9).withWord word).course[4].walk.stack = [saved, first] ∧
        saved.taper.mark = some 7 := ⟨_, _, rfl, rfl⟩
  obtain ⟨hturtle, hstack⟩ := notes_never_stale hlength hv
  -- which bracket saved a turtle is told by how deep the stack was there
  have hdepths : ((shrub Float32 9).withWord word).course.map (fun u => u.walk.stack.length) =
    [0, 1, 1, 2, 2, 2, 1, 1] := rfl
  have hpushes : ∀ k < 4, (Command.ofWord word)[k]? = some .push → k = 0 ∨ k = 2 := by decide
  have hbracket : ∀ u ∈ ((shrub Float32 9).withWord word).course, u.command = .push →
      u.index < 4 → u.index = 2 * u.walk.stack.length := by
    intro u hu hpush hlt
    have hdepth := congrArg (fun l => l[u.index]?) hdepths
    simp only [List.getElem?_map, course_getElem?_index hu, Option.map_some] at hdepth
    rcases hpushes u.index hlt (hpush ▸ command_at_index hu) with hindex | hindex
    · simpa [hindex] using hdepth
    · simpa [hindex] using hdepth
  obtain ⟨u, hu, hlt, hpush, _, houter, _, hbehind, _⟩ := hstack [] saved [first] hsaved
  obtain ⟨x, hx, hxlt, hxpush, _, hxouter, _, _, hnever⟩ := hstack [saved] first [] hsaved
  have hsecond : u.index = 2 := by simpa [houter] using hbracket u hu hpush hlt
  have hfirst : x.index = 0 := by simpa [hxouter] using hbracket x hx hxpush hxlt
  have hnote := hbehind 5 (hsecond ▸ ⟨rfl, rfl, by decide⟩)
  refine ⟨hlength, _, hv, rfl, hmark, hturtle.ahead 4 hmark, hturtle.counted 4 hmark,
    saved, first, hsaved, hnoted, hnote.ahead 7 hnoted, hnote.counted 7 hnoted, hnever ?_⟩
  rw [hfirst]
  intro q hmatched
  have hpops : ∀ k < 8, (Command.ofWord word)[k]? = some .pop → k = 5 := by decide
  have hq : q < 8 := (List.getElem?_eq_some_iff.mp hmatched.closes).1
  have hclose := hmatched.inside.height_eq
  rw [hpops q hq hmatched.closes] at hclose
  exact absurd hclose (by decide)

end Setting

end PlantGrowth
