import PlantGrowth.Proofs.ExactArithmetic
import PlantGrowth.Proofs.Insertion
import PlantGrowth.Proofs.TaperRuns

/-!
# Looking ahead at every segment

A look-ahead that finds no mark is noted, and later segments of the branch rely on the note.  The
walk here does not: it looks ahead at every segment for which no run is under way.  The note is
taken in one scope, goes onto the stack and comes back from it, and is dropped where a `pop` closes
nothing.  Wherever it is read it is right, so the two walks agree command by command.

Both count the segments ahead in 32 bits.  That is the number of the segments for every word with
fewer than `2 ^ 32` of them; a longer run may come to its mark at zero and pass for none, and there
the note matters.
-/

namespace PlantGrowth

open Brackets Scalar

variable {α β σ : Type} [Scalar α]

/-! ## Counting in 32 bits -/

namespace MarkedRun

/-- Looks for the next mark like `scanFrom`, with a counter that starts over at zero. -/
def scanFrom32 : Nat → UInt32 → Nat → List Command → Option MarkedRun
  | _, _, _, [] => none
  | depth, segments, index, c :: rest =>
    match c with
    | .push => scanFrom32 (depth + 1) segments (index + 1) rest
    | .pop =>
      match depth with
      | 0 => none
      | outer + 1 => scanFrom32 outer segments (index + 1) rest
    | .taperMark =>
      if depth == 0 then if segments == 0 then none else some ⟨segments.toNat, index⟩
      else scanFrom32 depth segments (index + 1) rest
    | .forward =>
      scanFrom32 depth (if depth == 0 then segments + 1 else segments) (index + 1) rest
    | _ => scanFrom32 depth segments (index + 1) rest

def scan32 (index : Nat) (ahead : List Command) : Option MarkedRun := scanFrom32 0 0 index ahead

variable {depth segments index : Nat} {ahead : List Command}

/-- A counter that has not started over shows the number of segments. -/
theorem scanFrom32_eq (hdraws : segments + ahead.count .forward < 2 ^ 32) :
    scanFrom32 depth (UInt32.ofNat segments) index ahead =
      scanFrom depth segments index ahead := by
  induction ahead generalizing depth segments index with
  | nil => rfl
  | cons c rest ih =>
      cases c with
      | forward =>
          rw [List.count_cons_self] at hdraws
          by_cases hdepth : depth = 0
          · have hcounter : UInt32.ofNat segments + 1 = UInt32.ofNat (segments + 1) := by
              rw [UInt32.ofNat_add]
              rfl
            simp only [scanFrom32, scanFrom, hdepth, beq_self_eq_true, if_true, hcounter]
            exact ih (by omega)
          · simp only [scanFrom32, scanFrom, beq_iff_eq, if_neg hdepth]
            exact ih (by omega)
      | pop =>
          cases depth with
          | zero => rfl
          | succ outer => exact ih (by simpa using hdraws)
      | taperMark =>
          have hrest : segments + rest.count .forward < 2 ^ 32 := by simpa using hdraws
          have hshown : (UInt32.ofNat segments).toNat = segments :=
            UInt32.toNat_ofNat_of_lt' (by rw [UInt32.size]; omega)
          have hzero : UInt32.ofNat segments = 0 ↔ segments = 0 := by
            rw [← UInt32.toNat_inj, hshown]
            rfl
          simp only [scanFrom32, scanFrom, beq_iff_eq, hzero, hshown, ih hrest]
      | _ => exact ih (by simpa using hdraws)

theorem scan32_eq (hdraws : ahead.count .forward < 2 ^ 32) :
    scan32 index ahead = scan index ahead := by
  have hnone : 0 + ahead.count .forward < 2 ^ 32 := by omega
  exact scanFrom32_eq hnone

theorem scanFrom32_replicate (counter : UInt32) (n index : Nat) (rest : List Command) :
    scanFrom32 0 counter index (List.replicate n .forward ++ rest) =
      scanFrom32 0 (counter + UInt32.ofNat n) (index + n) rest := by
  induction n generalizing counter index with
  | zero => simp
  | succ n ih =>
      rw [List.replicate_succ, List.cons_append]
      have hcounter : counter + 1 + UInt32.ofNat n = counter + UInt32.ofNat (n + 1) := by
        rw [UInt32.ofNat_add, UInt32.add_assoc, UInt32.add_comm (1 : UInt32)]
        rfl
      have hindex : index + 1 + n = index + (n + 1) := by omega
      simp only [scanFrom32, beq_self_eq_true, if_true]
      rw [ih, hcounter, hindex]

end MarkedRun

namespace TaperRun

/-- The run that a look-ahead has found. -/
def ofScan (taper : α) : Option MarkedRun → TaperRun α
  | some run => ⟨gradualDecay taper run.segments, run.segments, some run.mark, false⟩
  | none => { inactive with unmarked := true }

/-- The run for a segment at position `index`, looked up unless one is under way or a note says
that there is none. -/
def lookUp32 (t : TaperRun α) (taper : α) (index : Nat) (ahead : List Command) : TaperRun α :=
  if t.needsScan then ofScan taper (MarkedRun.scan32 index ahead) else t

/-- The run for a segment at position `index`, looked up unless one is under way. -/
def lookUpAgain32 (t : TaperRun α) (taper : α) (index : Nat) (ahead : List Command) :
    TaperRun α :=
  if t.isActive then t else ofScan taper (MarkedRun.scan32 index ahead)

variable {taper : α} {index : Nat} {ahead : List Command}

theorem ofScan_scan32 (hdraws : ahead.count .forward < 2 ^ 32) :
    ofScan taper (MarkedRun.scan32 index ahead) = begin taper index ahead := by
  rw [MarkedRun.scan32_eq hdraws, begin]
  cases MarkedRun.scan index ahead <;> rfl

theorem factor_ofScan {segments mark : Nat} (hsegments : segments ≠ 0) :
    (ofScan taper (some ⟨segments, mark⟩)).factor = gradualDecay taper segments := by
  simp [ofScan, factor, isActive, Nat.pos_of_ne_zero hsegments]

theorem lookUp32_inactive :
    inactive.lookUp32 taper index ahead = ofScan taper (MarkedRun.scan32 index ahead) := rfl

theorem lookUpAgain32_inactive :
    inactive.lookUpAgain32 taper index ahead = ofScan taper (MarkedRun.scan32 index ahead) := rfl

theorem lookUp32_eq (t : TaperRun α) (hdraws : ahead.count .forward < 2 ^ 32) :
    t.lookUp32 taper index ahead = t.lookUp taper index ahead := by
  rw [lookUp32, ofScan_scan32 hdraws, TaperRun.lookUp]

/-- Where a note is relied on, a look-ahead would find again what is noted. -/
theorem Fits.lookUpAgain32_eq {commands : List Command} {i : Nat} {t : TaperRun α}
    (h : t.Fits taper commands i) (hdraws : (commands.drop i).count .forward < 2 ^ 32) :
    t.lookUpAgain32 taper i (commands.drop i) = t.lookUp taper i (commands.drop i) := by
  rw [lookUpAgain32, ofScan_scan32 hdraws, TaperRun.lookUp, needsScan]
  by_cases hactive : t.isActive = true
  · simp [hactive]
  by_cases hunmarked : t.unmarked = true
  · obtain ⟨hnone, hnothing⟩ := h.unmarked hunmarked
    have hscan : MarkedRun.scan i (commands.drop i) = none :=
      MarkedRun.scan_drop_eq_none_iff.mpr fun m hnext => absurd hnext (hnothing m)
    have hbegin : begin taper i (commands.drop i) = { inactive with unmarked := true } := by
      simp [begin, hscan]
    have ht : { inactive with unmarked := true } = t := by
      rw [← h.eq_inactive hnone, ← hunmarked]
    simp [hactive, hunmarked, hbegin, ht]
  · simp [hactive, hunmarked]

end TaperRun

/-! ## Walks that look ahead in their own way -/

/-- How a segment comes by its run: from the run as it stands, the taper factor, the position and
the commands from there on. -/
abbrev Look (α : Type) := TaperRun α → α → Nat → List Command → TaperRun α

namespace Rescan

variable (look : Look α)

def draw (habit : Habit α) (builder : Builder α β) (index : Nat) (ahead : List Command)
    (w : Walk α β σ) : Walk α β σ :=
  let run := look w.turtle.taper habit.taper index ahead
  let drawn := Walk.segment w.turtle run
  let (b, anchor) := builder.add w.builder drawn w.turtle.anchor
  { w with
    turtle :=
      { w.turtle with
        position := drawn.stop, width := drawn.width, taper := run.afterSegment, anchor }
    builder := b
    extent := w.extent.insert drawn.stop
    segments := w.segments + 1 }

def step (habit : Habit α) (builder : Builder α β) (source : Source α σ) (index : Nat)
    (c : Command) (rest : List Command) (w : Walk α β σ) : Walk α β σ :=
  match c with
  | .forward => draw look habit builder index (c :: rest) w
  | _ => w.step habit builder source index c rest

def runFrom (habit : Habit α) (builder : Builder α β) (source : Source α σ) :
    Nat → List Command → Walk α β σ → Tour α β σ
  | _, [], w => ⟨w, 0⟩
  | index, c :: rest, w =>
    let w' := step look habit builder source index c rest w
    if w'.ends builder c then ⟨w', rest.length⟩
    else runFrom habit builder source (index + 1) rest w'

variable (S : Setting α β σ)

def tour : Tour α β σ := runFrom look S.habit S.builder S.source 0 S.commands S.start

def after (v : Visit α β σ) : Walk α β σ :=
  step look S.habit S.builder S.source v.index v.command v.rest v.walk

def courseFrom : Nat → List Command → Walk α β σ → List (Visit α β σ)
  | _, [], _ => []
  | index, c :: rest, w =>
    let v : Visit α β σ := ⟨index, c, rest, w⟩
    v :: if (after look S v).ends S.builder c then []
      else courseFrom (index + 1) rest (after look S v)

def course : List (Visit α β σ) := courseFrom look S 0 S.commands S.start

def taperRun (v : Visit α β σ) : TaperRun α :=
  look v.walk.turtle.taper S.habit.taper v.index v.ahead

def call? (v : Visit α β σ) : Option (Segment α × Option Anchor) :=
  if v.command = .forward then some (Walk.segment v.walk.turtle (taperRun look S v), v.origin)
  else none

def calls : List (Segment α × Option Anchor) := (course look S).filterMap (call? look S)

def leaves : List (LeafTransform α) := (course look S).filterMap (Visit.leaf? S)

def sampleCount : Nat := ((course look S).map (Visit.sampleCount S)).sum

/-! ## Looks that find the same -/

/-- Along the walk of the setting, the look finds what that walk finds. -/
def FindsSame : Prop := ∀ v ∈ S.course, taperRun look S v = v.taperRun S

variable {look : Look α} {S : Setting α β σ}

theorem FindsSame.after_eq (h : FindsSame look S) {v : Visit α β σ} (hv : v ∈ S.course) :
    after look S v = v.after S := by
  have hrun := h v hv
  cases hcommand : v.command with
  | forward =>
      simp only [taperRun, Visit.taperRun, Visit.ahead, hcommand] at hrun
      simp [after, step, draw, Visit.after, Walk.step, Walk.draw, hcommand, hrun]
  | _ => simp [after, step, Visit.after, hcommand]

theorem FindsSame.call?_eq (h : FindsSame look S) {v : Visit α β σ} (hv : v ∈ S.course) :
    call? look S v = v.call? S := by
  simp [call?, Visit.call?, Visit.segment, h v hv]

theorem courseFrom_eq {commands : List Command} {index : Nat} {w : Walk α β σ}
    (hafter : ∀ v ∈ S.courseFrom index commands w, after look S v = v.after S) :
    courseFrom look S index commands w = S.courseFrom index commands w ∧
      runFrom look S.habit S.builder S.source index commands w =
        Walk.runFrom S.habit S.builder S.source index commands w := by
  induction commands generalizing index w with
  | nil => exact ⟨rfl, rfl⟩
  | cons c rest ih =>
      simp only [Setting.courseFrom, List.forall_mem_cons] at hafter
      obtain ⟨hhead, hrest⟩ := hafter
      have hstep : step look S.habit S.builder S.source index c rest w =
          Visit.after S ⟨index, c, rest, w⟩ := hhead
      rw [Setting.runFrom_cons]
      simp only [courseFrom, runFrom, Setting.courseFrom, hhead, hstep]
      cases hends : Visit.ends S ⟨index, c, rest, w⟩ with
      | true =>
          have hlast : (Visit.after S ⟨index, c, rest, w⟩).ends S.builder c = true := hends
          simp [hlast]
      | false =>
          have hgoes : (Visit.after S ⟨index, c, rest, w⟩).ends S.builder c = false := hends
          simp only [hends, Bool.false_eq_true, if_false] at hrest
          obtain ⟨hcourse, hrun⟩ := ih hrest
          simp [hgoes, hcourse, hrun]

theorem FindsSame.course_eq (h : FindsSame look S) : course look S = S.course :=
  (courseFrom_eq fun _ hv => h.after_eq hv).1

theorem FindsSame.tour_eq (h : FindsSame look S) : tour look S = S.tour :=
  (courseFrom_eq fun _ hv => h.after_eq hv).2

theorem FindsSame.calls_eq (h : FindsSame look S) : calls look S = S.calls := by
  unfold calls Setting.calls
  rw [h.course_eq]
  exact List.filterMap_congr fun _ hv => h.call?_eq hv

theorem FindsSame.leaves_eq (h : FindsSame look S) : leaves look S = S.leaves := by
  rw [leaves, h.course_eq, Setting.leaves]

theorem FindsSame.sampleCount_eq (h : FindsSame look S) :
    sampleCount look S = S.sampleCount := by
  rw [sampleCount, h.course_eq, Setting.sampleCount]

/-! ## The note is right where it is read -/

omit [Scalar α] in
theorem count_ahead_lt (hdraws : S.commands.count .forward < 2 ^ 32) (i : Nat) :
    (S.commands.drop i).count .forward < 2 ^ 32 :=
  lt_of_le_of_lt ((List.drop_sublist i S.commands).count_le .forward) hdraws

theorem findsSame_lookUp32 (hdraws : S.commands.count .forward < 2 ^ 32) :
    FindsSame TaperRun.lookUp32 S := by
  intro v hv
  rw [taperRun, Visit.taperRun, ← Setting.drop_index hv]
  exact TaperRun.lookUp32_eq _ (count_ahead_lt hdraws v.index)

theorem findsSame_lookUpAgain32 (hdraws : S.commands.count .forward < 2 ^ 32) :
    FindsSame TaperRun.lookUpAgain32 S := by
  intro v hv
  rw [taperRun, Visit.taperRun, ← Setting.drop_index hv]
  exact (Setting.fits_of_mem hv).lookUpAgain32_eq (count_ahead_lt hdraws v.index)

/-- What is noted of a branch without marks saves look-aheads and changes nothing else: a walk that
looks ahead at every segment for which no run is under way asks the same of its builder, places the
same leaves, draws as many samples and ends alike. -/
theorem rescanning_changes_nothing (S : Setting α β σ)
    (hdraws : S.commands.count .forward < 2 ^ 32) :
    (calls TaperRun.lookUpAgain32 S = calls TaperRun.lookUp32 S ∧
      leaves TaperRun.lookUpAgain32 S = leaves TaperRun.lookUp32 S ∧
      sampleCount TaperRun.lookUpAgain32 S = sampleCount TaperRun.lookUp32 S ∧
      tour TaperRun.lookUpAgain32 S = tour TaperRun.lookUp32 S) ∧
    calls TaperRun.lookUp32 S = S.calls ∧ leaves TaperRun.lookUp32 S = S.leaves ∧
      sampleCount TaperRun.lookUp32 S = S.sampleCount ∧ tour TaperRun.lookUp32 S = S.tour := by
  have hnoted := findsSame_lookUp32 hdraws
  have hagain := findsSame_lookUpAgain32 hdraws
  refine ⟨⟨?_, ?_, ?_, ?_⟩, hnoted.calls_eq, hnoted.leaves_eq, hnoted.sampleCount_eq,
    hnoted.tour_eq⟩
  · rw [hagain.calls_eq, hnoted.calls_eq]
  · rw [hagain.leaves_eq, hnoted.leaves_eq]
  · rw [hagain.sampleCount_eq, hnoted.sampleCount_eq]
  · rw [hagain.tour_eq, hnoted.tour_eq]

/-- The first stretch has no mark, and its second segment relies on the note. -/
theorem rescanning_changes_nothing_stretches :
    let S := (Setting.shrub Float32 9).withWord "FF]FF!".toList
    S.commands.count .forward < 2 ^ 32 ∧
      (∃ v ∈ S.course, v.command = .forward ∧ v.walk.turtle.taper.unmarked = true) ∧
      calls TaperRun.lookUpAgain32 S = calls TaperRun.lookUp32 S ∧
      tour TaperRun.lookUpAgain32 S = tour TaperRun.lookUp32 S ∧
      calls TaperRun.lookUp32 S = S.calls := by
  intro S
  have hdraws : S.commands.count .forward < 2 ^ 32 := by decide
  have hlength : 1 < S.course.length := by decide
  obtain ⟨⟨hcalls, _, _, htour⟩, hnoted, _⟩ := rescanning_changes_nothing S hdraws
  exact ⟨hdraws, ⟨S.course[1], List.getElem_mem hlength, rfl, rfl⟩, hcalls, htour, hnoted⟩

/-! ## A run that is too long to be counted -/

/-- A rod of `n` segments up to a mark that narrows it to nothing. -/
def rod (α : Type) [Scalar α] (n : Nat) : Setting α Nat Unit :=
  { (Setting.shrub α 3).withWord (List.replicate n 'F' ++ "!".toList) with
    habit := { Habit.standard with taper := Scalar.ofNat 0 } }

theorem commands_rod (n : Nat) :
    (rod α n).commands = List.replicate n .forward ++ [.taperMark] := by
  change Command.ofWord _ = _
  rw [Command.ofWord, List.map_append, List.map_replicate]
  rfl

theorem start_rod (n : Nat) : (rod α n).start.turtle.taper = TaperRun.inactive := rfl

/-- Where the counter comes to the mark at zero, it does not do so one segment later. -/
theorem scan32_rod {k : Nat} (hwraps : UInt32.ofNat (k + 2) = 0) :
    MarkedRun.scan32 0 (rod α (k + 2)).commands = none ∧
      ∃ segments mark, segments ≠ 0 ∧
        MarkedRun.scan32 1 (List.replicate (k + 1) .forward ++ [.taperMark]) =
          some ⟨segments, mark⟩ := by
  constructor
  · rw [commands_rod, MarkedRun.scan32, MarkedRun.scanFrom32_replicate, hwraps]
    rfl
  have hcounter : 0 + UInt32.ofNat (k + 1) ≠ 0 := by
    intro hzero
    have hnext : UInt32.ofNat (k + 2) = UInt32.ofNat (k + 1) + UInt32.ofNat 1 :=
      UInt32.ofNat_add (k + 1) 1
    rw [UInt32.zero_add] at hzero
    rw [hnext, hzero] at hwraps
    exact absurd hwraps (by decide)
  refine ⟨(0 + UInt32.ofNat (k + 1)).toNat, 1 + (k + 1), ?_, ?_⟩
  · intro hzero
    exact hcounter (UInt32.toNat_inj.mp hzero)
  · rw [MarkedRun.scan32, MarkedRun.scanFrom32_replicate]
    simp only [MarkedRun.scanFrom32, beq_self_eq_true, if_true, beq_iff_eq, if_neg hcounter]

/-- The second segment narrows by what the second look finds. -/
theorem decay_second_call (look : Look α) {S : Setting α β σ} {tail : List Command}
    (hcommands : S.commands = .forward :: .forward :: tail)
    (hgoes : (after look S ⟨0, .forward, .forward :: tail, S.start⟩).ends S.builder .forward =
      false) :
    (calls look S)[1]?.map (fun call => call.1.decay) =
      some (look (look S.start.turtle.taper S.habit.taper 0 S.commands).afterSegment
        S.habit.taper 1 (.forward :: tail)).factor := by
  obtain ⟨later, hcourse⟩ : ∃ later, course look S = ⟨0, .forward, .forward :: tail, S.start⟩ ::
      ⟨1, .forward, tail, after look S ⟨0, .forward, .forward :: tail, S.start⟩⟩ :: later := by
    rw [course, hcommands, courseFrom, courseFrom]
    simp only [hgoes, Bool.false_eq_true, if_false]
    exact ⟨_, rfl⟩
  simp only [calls, hcourse, List.filterMap_cons, call?, if_true, hcommands]
  rfl

/-- Nothing is found at the first segment.  The walk that notes this leaves the second one as wide
as it was, and the walk that looks again finds a run for it. -/
theorem decays_rod {k : Nat} (hwraps : UInt32.ofNat (k + 2) = 0) :
    (calls TaperRun.lookUp32 (rod α (k + 2)))[1]?.map (fun call => call.1.decay) =
        some (Scalar.ofNat 1) ∧
      ∃ segments, segments ≠ 0 ∧
        (calls TaperRun.lookUpAgain32 (rod α (k + 2)))[1]?.map (fun call => call.1.decay) =
          some (gradualDecay (Scalar.ofNat 0) segments) := by
  obtain ⟨hfirst, segments, mark, hsegments, hsecond⟩ := scan32_rod (α := α) hwraps
  have hcommands : (rod α (k + 2)).commands =
      .forward :: .forward :: (List.replicate k .forward ++ [.taperMark]) := commands_rod (k + 2)
  have hahead : Command.forward :: (List.replicate k .forward ++ [.taperMark]) =
      List.replicate (k + 1) .forward ++ [.taperMark] := rfl
  constructor
  · rw [decay_second_call _ hcommands rfl, start_rod, TaperRun.lookUp32_inactive, hfirst]
    rfl
  · refine ⟨segments, hsegments, ?_⟩
    rw [decay_second_call _ hcommands rfl, start_rod, TaperRun.lookUpAgain32_inactive, hfirst,
      hahead]
    change some (TaperRun.ofScan _ (MarkedRun.scan32 1 _)).factor = _
    rw [hsecond, TaperRun.factor_ofScan hsegments]
    rfl

/-- In a word with a run of `2 ^ 32` segments the note is wrong. -/
theorem rescanning_changes_wrapped_run :
    calls TaperRun.lookUpAgain32 (rod ℝ (2 ^ 32)) ≠
      calls TaperRun.lookUp32 (rod ℝ (2 ^ 32)) := by
  -- the length stays a sum, so that nothing spells the word out
  have hlength : 2 ^ 32 = 4294967294 + 2 := by norm_num
  have hwraps : UInt32.ofNat (4294967294 + 2) = 0 := by decide
  obtain ⟨hnoted, segments, hsegments, hagain⟩ := decays_rod (α := ℝ) hwraps
  rw [hlength]
  intro hcalls
  rw [hcalls, hnoted, Option.some.injEq, gradualDecay_real _ hsegments] at hagain
  simp [ofNat_real, hsegments] at hagain

end Rescan

end PlantGrowth
