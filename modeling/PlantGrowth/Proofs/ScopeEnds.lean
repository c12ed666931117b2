import PlantGrowth.Proofs.OpenBranches
import PlantGrowth.Proofs.TaperScan
import Mathlib.Order.Interval.Finset.Nat

/-!
# Scopes counted on symbols

From a position on, the depth of a later one is the opening brackets between them less the closing
ones, and the scope ends at the first closing bracket at depth zero, or with the word.  The
look-ahead finds the first mark at depth zero before that end, with the segments at depth zero
before the mark.  From a later position at depth zero it finds the same mark, with those of the
segments that are still to come; so one look-ahead serves a whole run.
-/

namespace PlantGrowth

open Brackets

/-- The opening brackets from `start` on and before `k`, less the closing ones. -/
def depthFrom (word : Word) (start k : Nat) : Int := bracketBalance ((word.take k).drop start)

/-- A scope that holds `start` ends at `k` if it has not ended before. -/
def EndsScope (word : Word) (start k : Nat) : Prop :=
  word.length ≤ k ∨ word[k]? = some ']' ∧ depthFrom word start k = 0

instance (word : Word) (start k : Nat) : Decidable (EndsScope word start k) :=
  inferInstanceAs (Decidable (_ ∨ _))

theorem exists_endsScope (word : Word) (start : Nat) : ∃ k, start ≤ k ∧ EndsScope word start k :=
  ⟨max start word.length, le_max_left _ _, Or.inl (le_max_right _ _)⟩

/-- The first position where the scope of `start` ends. -/
def scopeEnd (word : Word) (start : Nat) : Nat := Nat.find (exists_endsScope word start)

/-- The marks of the scope of `start`. -/
def scopeMarks (word : Word) (start : Nat) : Set Nat :=
  {k | start ≤ k ∧ k < scopeEnd word start ∧ word[k]? = some '!' ∧ depthFrom word start k = 0}

/-- The segments in the scope of `start` that stand from `first` on and before `last`. -/
def scopeDraws (word : Word) (start first last : Nat) : Finset Nat :=
  {k ∈ Finset.Ico first last |
    word[k]?.any Command.isForwardSymbol = true ∧ depthFrom word start k = 0}

variable {word : Word} {start j k m : Nat}

open Command

theorem depthFrom_eq (h : start ≤ k) :
    depthFrom word start k = height (ofWord word) k - height (ofWord word) start := by
  have hparts := List.take_append_drop start (word.take k)
  rw [List.take_take, min_eq_left h] at hparts
  rw [height_ofWord, height_ofWord, ← hparts, bracketBalance_append, depthFrom]
  omega

/-! ## The end of a scope -/

theorem le_scopeEnd_iff : k ≤ scopeEnd word start ↔
    ∀ l < k, start ≤ l → ¬EndsScope word start l := by
  unfold scopeEnd
  rw [Nat.le_find_iff]
  simp only [not_and]

theorem endsScope_scopeEnd (word : Word) (start : Nat) :
    EndsScope word start (scopeEnd word start) :=
  (Nat.find_spec (exists_endsScope word start)).2

theorem scopeEnd_le (h : start ≤ word.length) : scopeEnd word start ≤ word.length :=
  Nat.find_min' _ ⟨h, Or.inl (le_refl _)⟩

theorem depthFrom_nonneg (hstart : start ≤ k) (hend : k ≤ scopeEnd word start) :
    0 ≤ depthFrom word start k := by
  induction k, hstart using Nat.le_induction with
  | base => simp [depthFrom_eq]
  | succ k hstart ih =>
      have hbefore := ih (by omega)
      have hopen := le_scopeEnd_iff.mp hend k (Nat.lt_succ_self k) hstart
      rw [depthFrom_eq hstart] at hbefore
      rw [depthFrom_eq (by omega)]
      rcases height_succ_cases (ofWord word) k with ⟨_, hup⟩ | ⟨hpop, hdown⟩ | hlevel
      · omega
      · -- a bracket that closes stands higher, or the scope ended here
        have hdeep : depthFrom word start k ≠ 0 := by
          intro hzero
          exact hopen (Or.inr ⟨getElem?_ofWord_eq_pop_iff.mp hpop, hzero⟩)
        rw [depthFrom_eq hstart] at hdeep
        omega
      · omega

/-- Within the word, a position is in the scope if it is at depth zero and the scope has not
ended. -/
theorem sameScope_ofWord_iff (hk : k ≤ word.length) :
    SameScope (ofWord word) start k ↔
      start ≤ k ∧ depthFrom word start k = 0 ∧ k ≤ scopeEnd word start := by
  constructor
  · intro hscope
    have hheight := hscope.height_eq
    refine ⟨hscope.le, by rw [depthFrom_eq hscope.le]; omega, ?_⟩
    rw [le_scopeEnd_iff]
    rintro l hlk hl (hlength | ⟨hpop, hdepth⟩)
    · omega
    · have habove := hscope.above (l + 1) (by omega) hlk
      rw [height_succ_of_pop (getElem?_ofWord_eq_pop_iff.mpr hpop)] at habove
      rw [depthFrom_eq hl] at hdepth
      omega
  · rintro ⟨hstart, hdepth, hend⟩
    rw [depthFrom_eq hstart] at hdepth
    refine ⟨hstart, by omega, ?_⟩
    intro l hl hlk
    have hnonneg := depthFrom_nonneg hl (hlk.trans hend)
    rw [depthFrom_eq hl] at hnonneg
    omega

theorem lt_scopeEnd_of_mark (hmark : word[k]? = some '!') (hend : k ≤ scopeEnd word start) :
    k < scopeEnd word start := by
  apply Nat.lt_of_le_of_ne hend
  rintro rfl
  rcases endsScope_scopeEnd word start with hlength | ⟨hpop, _⟩
  · rw [List.getElem?_eq_none hlength] at hmark
    cases hmark
  · rw [hpop] at hmark
    cases hmark

/-! ## The next mark and the segments before it -/

theorem mem_scopeMarks_iff :
    k ∈ scopeMarks word start ↔
      (ofWord word)[k]? = some .taperMark ∧ SameScope (ofWord word) start k := by
  rw [getElem?_ofWord_eq_taperMark_iff]
  constructor
  · rintro ⟨hstart, hend, hmark, hdepth⟩
    have hk := (List.getElem?_eq_some_iff.mp hmark).1
    exact ⟨hmark, (sameScope_ofWord_iff hk.le).mpr ⟨hstart, hdepth, hend.le⟩⟩
  · rintro ⟨hmark, hscope⟩
    have hk := (List.getElem?_eq_some_iff.mp hmark).1
    obtain ⟨hstart, hdepth, hend⟩ := (sameScope_ofWord_iff hk.le).mp hscope
    exact ⟨hstart, lt_scopeEnd_of_mark hmark hend, hmark, hdepth⟩

theorem nextMark_ofWord_iff :
    NextMark (ofWord word) start m ↔ IsLeast (scopeMarks word start) m := by
  constructor
  · intro hnext
    refine ⟨mem_scopeMarks_iff.mpr ⟨hnext.marks, hnext.sameScope⟩, ?_⟩
    intro k hk
    obtain ⟨hmark, hscope⟩ := mem_scopeMarks_iff.mp hk
    by_contra hlt
    exact hnext.first k (by omega) hscope hmark
  · rintro ⟨hm, hleast⟩
    obtain ⟨hmark, hscope⟩ := mem_scopeMarks_iff.mp hm
    refine ⟨hmark, hscope, ?_⟩
    intro k hk hscope hmark
    have hle := hleast (mem_scopeMarks_iff.mpr ⟨hmark, hscope⟩)
    omega

/-- Counted from an earlier position of the scope, the segments are the same. -/
theorem drawsUpTo_ofWord (hscope : SameScope (ofWord word) start j)
    (hm : m ≤ word.length) (hend : m ≤ scopeEnd word start) :
    drawsUpTo (ofWord word) j m = scopeDraws word start j m := by
  ext k
  rw [mem_drawsUpTo, scopeDraws, Finset.mem_filter, Finset.mem_Ico, getElem?_ofWord_eq_forward_iff]
  constructor
  · rintro ⟨hkm, hforward, hjk⟩
    have hstart := (sameScope_ofWord_iff (by omega)).mp (hscope.trans hjk)
    exact ⟨⟨hjk.le, hkm⟩, hforward, hstart.2.1⟩
  · rintro ⟨⟨hjk, hkm⟩, hforward, hdepth⟩
    have hstart : SameScope (ofWord word) start k :=
      (sameScope_ofWord_iff (by omega)).mpr ⟨hscope.le.trans hjk, hdepth, by omega⟩
    exact ⟨hkm, hforward, hscope.of_left hstart hjk⟩

/-! ## Looking ahead -/

namespace MarkedRun

variable {commands : List Command} {found : MarkedRun}

theorem scan_drop_of_nextMark (h : NextMark commands j m) :
    scan j (commands.drop j) =
      if drawsUpTo commands j m = ∅ then none else some ⟨(drawsUpTo commands j m).card, m⟩ := by
  split
  next hnone =>
    rw [scan_drop_eq_none_iff]
    intro m' hnext
    rw [hnext.unique h, hnone]
  next hsome =>
    rw [scan_drop_eq_some_iff]
    exact ⟨h, rfl, Finset.card_pos.mpr (Finset.nonempty_iff_ne_empty.mpr hsome)⟩

/-- What is found from position `start` of a word on. -/
def scanWord (word : Word) (start : Nat) : Option MarkedRun :=
  scan start (ofWord (word.drop start))

theorem scanWord_eq (word : Word) (start : Nat) :
    scanWord word start = scan start ((ofWord word).drop start) := by
  rw [scanWord, ofWord, ofWord, List.map_drop]

theorem scanWord_eq_some_iff :
    scanWord word start = some found ↔
      IsLeast (scopeMarks word start) found.mark ∧
        found.segments = (scopeDraws word start start found.mark).card ∧ 0 < found.segments := by
  rw [scanWord_eq, scan_drop_eq_some_iff, IsAhead, nextMark_ofWord_iff]
  apply and_congr_right
  rintro ⟨⟨hstart, hend, hmark, _⟩, _⟩
  have hlt := (List.getElem?_eq_some_iff.mp hmark).1
  rw [drawsUpTo_ofWord (SameScope.refl _ start) hlt.le hend.le]

theorem segments_lt_length (hfound : scanWord word start = some found) :
    found.segments < word.length := by
  obtain ⟨⟨⟨_, _, hmark, _⟩, _⟩, hsegments, _⟩ := scanWord_eq_some_iff.mp hfound
  have hlt := (List.getElem?_eq_some_iff.mp hmark).1
  calc found.segments
      = (scopeDraws word start start found.mark).card := hsegments
    _ ≤ (Finset.Ico start found.mark).card := Finset.card_filter_le _ _
    _ = found.mark - start := Nat.card_Ico start found.mark
    _ ≤ found.mark := Nat.sub_le _ _
    _ < word.length := hlt

/-- Further on in the scope the mark of a run stays the next one, with the segments left. -/
theorem scanWord_further (hfound : scanWord word start = some found) (hj : start ≤ j)
    (hmark : j ≤ found.mark) (hdepth : depthFrom word start j = 0) :
    scanWord word j =
      if scopeDraws word start j found.mark = ∅ then none
      else some ⟨(scopeDraws word start j found.mark).card, found.mark⟩ := by
  obtain ⟨hleast, _⟩ := scanWord_eq_some_iff.mp hfound
  obtain ⟨_, hend, hsymbol, _⟩ := hleast.1
  have hlt := (List.getElem?_eq_some_iff.mp hsymbol).1
  have hscope : SameScope (ofWord word) start j :=
    (sameScope_ofWord_iff (by omega)).mpr ⟨hj, hdepth, by omega⟩
  have hnext := (nextMark_ofWord_iff.mpr hleast).of_sameScope hscope hmark
  rw [scanWord_eq, scan_drop_of_nextMark hnext, drawsUpTo_ofWord hscope hlt.le hend.le]

/-- Where a segment has no mark ahead, none is ahead further on in the scope. -/
theorem scanWord_further_of_none (hforward : word[start]?.any isForwardSymbol = true)
    (hnone : scanWord word start = none) (hj : start ≤ j) (hend : j ≤ scopeEnd word start)
    (hdepth : depthFrom word start j = 0) : scanWord word j = none := by
  have hcommand := getElem?_ofWord_eq_forward_iff.mpr hforward
  have hstart : start < word.length := by
    have := (List.getElem?_eq_some_iff.mp hcommand).1
    rwa [ofWord, List.length_map] at this
  have hscope : SameScope (ofWord word) start j :=
    (sameScope_ofWord_iff (hend.trans (scopeEnd_le hstart.le))).mpr ⟨hj, hdepth, hend⟩
  by_contra hsome
  obtain ⟨found, hfound⟩ := Option.ne_none_iff_exists'.mp hsome
  rw [scanWord_eq, scan_drop_eq_some_iff] at hfound
  have hahead := hfound.1
  obtain ⟨m, hnext⟩ := NextMark.exists_of_mark hahead.marks (hscope.trans hahead.sameScope)
  rw [scanWord_eq, scan_drop_eq_none_iff] at hnone
  -- the segment at `start` is one before the mark
  have hdraws : start ∈ drawsUpTo (ofWord word) start m :=
    mem_drawsUpTo.mpr ⟨hnext.lt (by simp [hcommand]), hcommand, SameScope.refl _ start⟩
  rw [hnone m hnext] at hdraws
  exact absurd hdraws (Finset.notMem_empty start)

/-- The look-ahead from a position finds the first mark of its scope with the segments of the scope
before the mark, if there are any, and nothing in every other case.  Further on in the scope it
finds the same mark with the segments left, and behind a segment without a run nothing. -/
theorem scanWord_finds_run_of_scope (hlength : word.length < 2 ^ 32) (start : Nat) :
    (∀ found, scanWord word start = some found ↔
        IsLeast (scopeMarks word start) found.mark ∧
          found.segments = (scopeDraws word start start found.mark).card ∧
          0 < found.segments) ∧
      (∀ found, scanWord word start = some found → found.segments < 2 ^ 32 ∧
        ∀ j, start ≤ j → j ≤ found.mark → depthFrom word start j = 0 →
          scanWord word j =
            if scopeDraws word start j found.mark = ∅ then none
            else some ⟨(scopeDraws word start j found.mark).card, found.mark⟩) ∧
      (word[start]?.any isForwardSymbol = true → scanWord word start = none →
        ∀ j, start ≤ j → j ≤ scopeEnd word start → depthFrom word start j = 0 →
          scanWord word j = none) := by
  refine ⟨fun found => scanWord_eq_some_iff, ?_, ?_⟩
  · intro found hfound
    refine ⟨(segments_lt_length hfound).trans hlength, ?_⟩
    intro j hj hmark hdepth
    exact scanWord_further hfound hj hmark hdepth
  · intro hforward hnone j hj hend hdepth
    exact scanWord_further_of_none hforward hnone hj hend hdepth

/-- Of three segments before the mark one is on a side branch; behind the mark no run is left. -/
theorem scanWord_finds_run_of_scope_twig :
    let word := "F[F!]F!]F".toList
    word.length < 2 ^ 32 ∧ IsLeast (scopeMarks word 0) 6 ∧ (scopeDraws word 0 0 6).card = 2 ∧
      scanWord word 5 = some ⟨1, 6⟩ ∧ scanWord word 6 = none ∧ scanWord word 9 = none := by
  intro word
  have hlength : word.length < 2 ^ 32 := by decide
  obtain ⟨hfirst, hfurther, _⟩ := scanWord_finds_run_of_scope hlength 0
  obtain ⟨_, _, hnothing⟩ := scanWord_finds_run_of_scope hlength 8
  have hfound : scanWord word 0 = some ⟨2, 6⟩ := by decide
  have hend : 9 ≤ scopeEnd word 8 := le_scopeEnd_iff.mpr (by decide)
  obtain ⟨hleast, hcard, _⟩ := (hfirst ⟨2, 6⟩).mp hfound
  obtain ⟨_, hlater⟩ := hfurther ⟨2, 6⟩ hfound
  refine ⟨hlength, hleast, hcard.symm, ?_, ?_, ?_⟩
  · rw [hlater 5 (by decide) (by decide) (by decide)]
    decide
  · rw [hlater 6 (by decide) (by decide) (by decide)]
    decide
  · exact hnothing (by decide) (by decide) 9 (by decide) hend (by decide)

end MarkedRun

end PlantGrowth
