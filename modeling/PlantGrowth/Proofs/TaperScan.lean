import PlantGrowth.Taper.Scan
import PlantGrowth.Proofs.Scopes

/-!
# What the look-ahead finds

The look-ahead counts side branches by depth and segments by number as it reads on.  Both are told
from where it stands: the depth is how much higher that is than where the look-ahead began, and the
number is that of the segments drawn in the scope until there.  So what it finds is the next mark
of the scope, with the segments before it.
-/

namespace PlantGrowth

open Brackets

/-- The look-ahead from position `i` has come to position `k` without leaving the scope and without
a mark. -/
structure MarkedRun.Reading (commands : List Command) (i k depth segments : Nat) : Prop where
  le : i ≤ k
  height_eq : height commands k = height commands i + depth
  above : ∀ l, i ≤ l → l ≤ k → height commands i ≤ height commands l
  unmarked : ∀ l < k, SameScope commands i l → commands[l]? ≠ some .taperMark
  counted : segments = (drawsUpTo commands i k).card

namespace MarkedRun

variable {commands : List Command} {i k depth segments : Nat} {found : MarkedRun}

namespace Reading

theorem start (commands : List Command) (i : Nat) : Reading commands i i 0 0 := by
  refine ⟨le_refl i, by simp, ?_, ?_, by simp [drawsUpTo_self]⟩
  · intro l hil hli
    rw [Nat.le_antisymm hli hil]
  · intro l hli hscope
    have := hscope.le
    omega

theorem sameScope_iff (h : Reading commands i k depth segments) :
    SameScope commands i k ↔ depth = 0 := by
  have hheight := h.height_eq
  constructor
  · intro hscope
    have := hscope.height_eq
    omega
  · rintro rfl
    exact ⟨h.le, by omega, h.above⟩

theorem not_nextMark_of_length_le (h : Reading commands i k depth segments)
    (hend : commands.length ≤ k) (m : Nat) : ¬ NextMark commands i m := by
  intro hnext
  have hlt := hnext.lt_length
  exact h.unmarked m (by omega) hnext.sameScope hnext.marks

theorem not_nextMark_of_pop (h : Reading commands i k 0 segments)
    (hpop : commands[k]? = some .pop) (m : Nat) : ¬ NextMark commands i m := by
  intro hnext
  rcases Nat.lt_or_ge m k with hlt | hge
  · exact h.unmarked m hlt hnext.sameScope hnext.marks
  · have hscope := h.sameScope_iff.mpr rfl
    exact (hnext.of_sameScope hscope hge).command_ne_pop hpop

theorem nextMark (h : Reading commands i k 0 segments)
    (hmark : commands[k]? = some .taperMark) : NextMark commands i k :=
  ⟨hmark, h.sameScope_iff.mpr rfl, h.unmarked⟩

theorem card_drawsUpTo_succ (h : Reading commands i k depth segments) {c : Command}
    (hc : commands[k]? = some c) :
    (drawsUpTo commands i (k + 1)).card =
      if c = .forward ∧ depth = 0 then segments + 1 else segments := by
  rw [drawsUpTo, Finset.range_add_one, Finset.filter_insert, h.counted]
  simp only [hc, Option.some.injEq, h.sameScope_iff]
  split
  · apply Finset.card_insert_of_notMem
    simp
  · rfl

theorem next (h : Reading commands i k depth segments) {c : Command} {depth' segments' : Nat}
    (hc : commands[k]? = some c) (hmark : c = .taperMark → depth ≠ 0)
    (hdepth : (depth' : Int) = depth + c.rise)
    (hsegments : segments' = if c = .forward ∧ depth = 0 then segments + 1 else segments) :
    Reading commands i (k + 1) depth' segments' := by
  have hheight := height_succ hc
  have hbefore := h.height_eq
  refine ⟨Nat.le_succ_of_le h.le, by omega, ?_, ?_, ?_⟩
  · intro l hil hlk
    rcases Nat.le_or_eq_of_le_succ hlk with hle | rfl
    · exact h.above l hil hle
    · rw [Nat.succ_eq_add_one]
      omega
  · intro l hlk hscope
    rcases Nat.lt_or_eq_of_le (Nat.le_of_lt_succ hlk) with hlt | rfl
    · exact h.unmarked l hlt hscope
    · rw [hc]
      intro hl
      exact hmark (Option.some.inj hl) (h.sameScope_iff.mp hscope)
  · rw [hsegments, h.card_drawsUpTo_succ hc]

end Reading

/-- What is to be found from position `i` on: the next mark, with at least one segment before. -/
def IsAhead (commands : List Command) (i : Nat) (found : MarkedRun) : Prop :=
  NextMark commands i found.mark ∧ found.segments = (drawsUpTo commands i found.mark).card ∧
    0 < found.segments

/-- What a look-ahead finds at the first mark is the segments that it has counted. -/
theorem Reading.isAhead_iff (h : Reading commands i k 0 segments)
    (hmark : commands[k]? = some .taperMark) :
    IsAhead commands i found ↔ found = ⟨segments, k⟩ ∧ 0 < segments := by
  have hnext := h.nextMark hmark
  have hcounted := h.counted
  constructor
  · rintro ⟨hfound, hsegments, hpos⟩
    obtain ⟨n, m⟩ := found
    simp only at hfound hsegments hpos
    obtain rfl := hnext.unique hfound
    rw [← hcounted] at hsegments
    subst n
    exact ⟨rfl, hpos⟩
  · rintro ⟨rfl, hpos⟩
    exact ⟨hnext, hcounted, hpos⟩

theorem scanFrom_eq_some_iff {rest : List Command}
    (h : Reading commands i k depth segments) (hrest : commands.drop k = rest) :
    scanFrom depth segments k rest = some found ↔ IsAhead commands i found := by
  induction rest generalizing k depth segments with
  | nil =>
      have hend : commands.length ≤ k := List.drop_eq_nil_iff.mp hrest
      simp only [scanFrom, reduceCtorEq, false_iff]
      rintro ⟨hnext, _⟩
      exact h.not_nextMark_of_length_le hend found.mark hnext
  | cons c rest ih =>
      have hc : commands[k]? = some c := by
        rw [← List.head?_drop, hrest, List.head?_cons]
      have hrest' : commands.drop (k + 1) = rest := by
        rw [← List.tail_drop, hrest, List.tail_cons]
      cases c with
      | forward =>
          exact ih (h.next hc nofun (by simp [Command.rise]) (by simp)) hrest'
      | pop =>
          cases depth with
          | zero =>
              simp only [scanFrom, reduceCtorEq, false_iff]
              rintro ⟨hnext, _⟩
              exact h.not_nextMark_of_pop hc found.mark hnext
          | succ outer => exact ih (h.next hc nofun (by simp [Command.rise]) rfl) hrest'
      | taperMark =>
          by_cases hdepth : depth = 0
          · subst depth
            rw [h.isAhead_iff hc]
            by_cases hnone : segments = 0
            · simp [scanFrom, hnone]
            · have hpos : 0 < segments := Nat.pos_of_ne_zero hnone
              simp only [scanFrom, beq_self_eq_true, if_true, beq_iff_eq, if_neg hnone,
                Option.some.injEq, hpos, and_true]
              exact eq_comm
          · simp only [scanFrom, beq_iff_eq, if_neg hdepth]
            exact ih (h.next hc (fun _ => hdepth) (by simp [Command.rise]) rfl) hrest'
      | _ => exact ih (h.next hc nofun (by simp [Command.rise]) rfl) hrest'

/-- The look-ahead finds the next mark of the scope, if a segment comes before it. -/
theorem scan_drop_eq_some_iff :
    scan i (commands.drop i) = some found ↔ IsAhead commands i found :=
  scanFrom_eq_some_iff (Reading.start commands i) rfl

theorem scan_drop_eq_none_iff :
    scan i (commands.drop i) = none ↔
      ∀ m, NextMark commands i m → drawsUpTo commands i m = ∅ := by
  rw [Option.eq_none_iff_forall_ne_some]
  constructor
  · intro hnone m hnext
    by_contra hdraws
    have hpos := Finset.card_pos.mpr (Finset.nonempty_iff_ne_empty.mpr hdraws)
    exact hnone ⟨_, m⟩ (scan_drop_eq_some_iff.mpr ⟨hnext, rfl, hpos⟩)
  · intro hempty found hfound
    obtain ⟨hnext, hsegments, hpos⟩ := scan_drop_eq_some_iff.mp hfound
    rw [hempty found.mark hnext, Finset.card_empty] at hsegments
    omega

end MarkedRun

end PlantGrowth
