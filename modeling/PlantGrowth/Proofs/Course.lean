import PlantGrowth.Turtle.Walk
import Mathlib.Algebra.GroupWithZero.Nat
import Mathlib.Data.List.Basic

/-!
# The course of a walk

A walk that has ended only shows what it has built.  The course lays out how it got there: one
visit for every command that was obeyed, with the walk as it stood before the command.  What the
builder is asked for, which leaves are placed and which samples are drawn is read off the visits,
and the tour is what the visits add up to.
-/

namespace PlantGrowth

open Scalar

variable {α β σ : Type} [Scalar α]

/-- All that a walk depends on. -/
structure Setting (α β σ : Type) where
  habit : Habit α
  builder : Builder α β
  source : Source α σ
  commands : List Command
  built : β
  chance : σ

/-- A command that is about to be obeyed: its position, the commands behind it, and the walk. -/
structure Visit (α β σ : Type) where
  index : Nat
  command : Command
  rest : List Command
  walk : Walk α β σ

namespace Visit

variable (S : Setting α β σ) (v : Visit α β σ)

def ahead : List Command := v.command :: v.rest

def after : Walk α β σ := v.walk.step S.habit S.builder S.source v.index v.command v.rest

/-- Whether the command is the last one obeyed, because it filled the builder. -/
def ends : Bool := (v.after S).ends S.builder v.command

/-- The taper run that holds for a segment drawn here. -/
def taperRun : TaperRun α := v.walk.turtle.taper.lookUp S.habit.taper v.index v.ahead

def segment : Segment α := Walk.segment v.walk.turtle (v.taperRun S)

def origin : Option Anchor := v.walk.turtle.anchor

/-- What the builder makes of the segment: what is built by then, and the anchor of the end. -/
def answer : β × Option Anchor := S.builder.add v.walk.builder (v.segment S) v.origin

/-- What the builder is asked for by this command: a segment and the anchor it grows from. -/
def call? : Option (Segment α × Option Anchor) :=
  if v.command = .forward then some (v.segment S, v.origin) else none

def leaf? : Option (LeafTransform α) :=
  if v.command = .leaf then
    (placeLeaf? S.habit.stepLength S.habit.tipsOnly v.rest v.walk.turtle.position
      v.walk.turtle.orientation S.source v.walk.source).1
  else none

def sampleCount : Nat :=
  match v.command with
  | .turn _ _ => 1
  | .leaf => if leafAllowed S.habit.tipsOnly v.rest then 2 else 0
  | _ => 0

def samples : List α := (S.source.take (v.sampleCount S) v.walk.source).1

end Visit

namespace Setting

variable (S : Setting α β σ)

def start : Walk α β σ := Walk.begin S.habit S.builder S.built S.chance

def tour : Tour α β σ :=
  Walk.run S.habit S.builder S.source S.commands S.built S.chance

/-- The visits of a walk that goes on from position `index`. -/
def courseFrom : Nat → List Command → Walk α β σ → List (Visit α β σ)
  | _, [], _ => []
  | index, c :: rest, w =>
    let v : Visit α β σ := ⟨index, c, rest, w⟩
    v :: if v.ends S then [] else courseFrom (index + 1) rest (v.after S)

def course : List (Visit α β σ) := S.courseFrom 0 S.commands S.start

def draws : List (Visit α β σ) := S.course.filter fun v => v.command = .forward

/-- All that the builder is asked for, in order: segments and the anchors they grow from. -/
def calls : List (Segment α × Option Anchor) := S.course.filterMap (Visit.call? S)

def segments : List (Segment α) := S.calls.map Prod.fst

/-- The leaves in the order they are placed, before any rescaling. -/
def leaves : List (LeafTransform α) := S.course.filterMap (Visit.leaf? S)

def samples : List α := S.course.flatMap (Visit.samples S)

def sampleCount : Nat := (S.course.map (Visit.sampleCount S)).sum

end Setting

/-! ## A small plant -/

/-- A builder that numbers the segments and is full when it has `capacity` of them. -/
def Builder.counting (capacity : Nat) : Builder α Nat where
  begin n _ := (n, some n)
  add n _ _ := (n + 1, some (n + 1))
  full n := capacity ≤ n

namespace Setting

/-- A shrub with a branch inside a branch and with taper marks in and behind them. -/
def shrub (α : Type) [Scalar α] (capacity : Nat) : Setting α Nat Unit where
  habit := Habit.standard
  builder := Builder.counting capacity
  source := Source.constant half
  commands :=
    [.forward, .push, .turn .yaw true, .forward, .push, .leaf, .pop, .taperMark, .forward, .pop,
      .forward, .taperMark]
  built := 0
  chance := ()

/-! ## One visit after another -/

variable {S : Setting α β σ}

private theorem courseFrom_getElem?_place {commands : List Command} {index k : Nat}
    {w : Walk α β σ} {v : Visit α β σ}
    (hv : (S.courseFrom index commands w)[k]? = some v) :
    v.index = index + k ∧ commands.drop k = v.ahead := by
  induction commands generalizing index k w with
  | nil => simp [courseFrom] at hv
  | cons c rest ih =>
      cases k with
      | zero =>
          simp only [courseFrom, List.getElem?_cons_zero, Option.some.injEq] at hv
          subst v
          exact ⟨rfl, rfl⟩
      | succ k =>
          simp only [courseFrom, List.getElem?_cons_succ] at hv
          split at hv
          · simp at hv
          · obtain ⟨hindex, hahead⟩ := ih hv
            exact ⟨by omega, by simpa using hahead⟩

private theorem courseFrom_getElem?_zero {commands : List Command} {index : Nat}
    {w : Walk α β σ} {v : Visit α β σ}
    (hv : (S.courseFrom index commands w)[0]? = some v) : v.walk = w := by
  cases commands with
  | nil => simp [courseFrom] at hv
  | cons c rest =>
      simp only [courseFrom, List.getElem?_cons_zero, Option.some.injEq] at hv
      subst v
      rfl

private theorem courseFrom_getElem?_succ {commands : List Command} {index k : Nat}
    {w : Walk α β σ} {v : Visit α β σ}
    (hv : (S.courseFrom index commands w)[k + 1]? = some v) :
    ∃ u, (S.courseFrom index commands w)[k]? = some u ∧
      u.ends S = false ∧ v.walk = u.after S := by
  induction commands generalizing index k w with
  | nil => simp [courseFrom] at hv
  | cons c rest ih =>
      simp only [courseFrom, List.getElem?_cons_succ] at hv
      split at hv
      · simp at hv
      · rename_i hends
        cases k with
        | zero =>
            refine ⟨⟨index, c, rest, w⟩, by simp [courseFrom], by simpa using hends, ?_⟩
            exact courseFrom_getElem?_zero hv
        | succ k =>
            obtain ⟨u, hu, hgoes, hwalk⟩ := ih hv
            refine ⟨u, ?_, hgoes, hwalk⟩
            simp only [courseFrom, List.getElem?_cons_succ]
            rw [if_neg hends]
            exact hu

theorem course_getElem?_index {v : Visit α β σ} (hv : v ∈ S.course) :
    S.course[v.index]? = some v := by
  obtain ⟨k, hk⟩ := List.mem_iff_getElem?.mp hv
  have hindex := (courseFrom_getElem?_place hk).1
  rw [Nat.zero_add] at hindex
  rw [hindex]
  exact hk

theorem index_eq_of_getElem? {v : Visit α β σ} {k : Nat} (hv : S.course[k]? = some v) :
    v.index = k := by
  simpa using (courseFrom_getElem?_place hv).1

theorem visit_unique {u v : Visit α β σ} (hu : u ∈ S.course) (hv : v ∈ S.course)
    (hindex : u.index = v.index) : u = v := by
  have huv := course_getElem?_index hu
  rw [hindex, course_getElem?_index hv] at huv
  exact (Option.some.inj huv).symm

theorem drop_index {v : Visit α β σ} (hv : v ∈ S.course) :
    S.commands.drop v.index = v.ahead :=
  (courseFrom_getElem?_place (course_getElem?_index hv)).2

theorem drop_index_succ {v : Visit α β σ} (hv : v ∈ S.course) :
    S.commands.drop (v.index + 1) = v.rest := by
  rw [← List.tail_drop, drop_index hv]
  rfl

theorem command_at_index {v : Visit α β σ} (hv : v ∈ S.course) :
    S.commands[v.index]? = some v.command := by
  have hhead := congrArg (fun l => l[0]?) (drop_index hv)
  simpa [Visit.ahead] using hhead

theorem command_eq {v : Visit α β σ} (hv : v ∈ S.course) {c : Command}
    (hc : S.commands[v.index]? = some c) : v.command = c :=
  Option.some.inj ((command_at_index hv).symm.trans hc)

/-- Whoever gets to a position has been at all positions before it. -/
theorem exists_visit_of_le {v : Visit α β σ} (hv : v ∈ S.course) {k : Nat}
    (hk : k ≤ v.index) : ∃ u ∈ S.course, u.index = k := by
  obtain ⟨hlt, _⟩ := List.getElem?_eq_some_iff.mp (course_getElem?_index hv)
  have hu : S.course[k]? = some S.course[k] := List.getElem?_eq_getElem (by omega)
  refine ⟨S.course[k], List.mem_of_getElem? hu, ?_⟩
  have := (courseFrom_getElem?_place hu).1
  omega

theorem course_pairwise_index : S.course.Pairwise (fun u v => u.index < v.index) := by
  rw [List.pairwise_iff_getElem]
  intro i j hi hj hij
  have hiplace := (courseFrom_getElem?_place (List.getElem?_eq_getElem hi)).1
  have hjplace := (courseFrom_getElem?_place (List.getElem?_eq_getElem hj)).1
  omega

theorem walk_of_index_zero {v : Visit α β σ} (hv : v ∈ S.course) (hzero : v.index = 0) :
    v.walk = S.start := by
  have hfirst := course_getElem?_index hv
  rw [hzero] at hfirst
  exact courseFrom_getElem?_zero hfirst

/-- The walk at a visit is what the visit before it has left. -/
theorem exists_visit_before {v : Visit α β σ} (hv : v ∈ S.course) {k : Nat}
    (hk : v.index = k + 1) :
    ∃ u ∈ S.course, u.index = k ∧ u.ends S = false ∧ v.walk = u.after S := by
  have hplace := course_getElem?_index hv
  rw [hk] at hplace
  obtain ⟨u, hu, hgoes, hwalk⟩ := courseFrom_getElem?_succ hplace
  refine ⟨u, List.mem_of_getElem? hu, ?_, hgoes, hwalk⟩
  have := (courseFrom_getElem?_place hu).1
  omega

theorem walk_eq_after {u v : Visit α β σ} (hu : u ∈ S.course) (hv : v ∈ S.course)
    (hindex : v.index = u.index + 1) : v.walk = u.after S := by
  obtain ⟨u', hu', hindex', _, hwalk⟩ := exists_visit_before hv hindex
  rw [visit_unique hu hu' hindex'.symm]
  exact hwalk

theorem calls_eq_map_draws :
    S.calls = S.draws.map fun v => (v.segment S, v.origin) := by
  unfold calls draws
  induction S.course with
  | nil => rfl
  | cons v visits ih =>
      by_cases hcommand : v.command = .forward
      · simp [Visit.call?, hcommand, ih]
      · simp [Visit.call?, hcommand, ih]

theorem segments_eq_map_draws : S.segments = S.draws.map (Visit.segment S) := by
  rw [segments, calls_eq_map_draws, List.map_map]
  rfl

theorem ends_eq_true_iff {v : Visit α β σ} :
    v.ends S = true ↔ v.command = .forward ∧ S.builder.full (v.answer S).1 = true := by
  unfold Visit.ends Walk.ends
  by_cases hcommand : v.command = .forward
  · simp [hcommand, Visit.after, Visit.answer, Visit.segment, Visit.taperRun, Visit.ahead,
      Visit.origin, Walk.step, Walk.draw]
  · simp [hcommand]

theorem index_le_of_ends {u v : Visit α β σ} (hu : u ∈ S.course) (hends : u.ends S = true)
    (hv : v ∈ S.course) : v.index ≤ u.index := by
  by_contra hlt
  obtain ⟨w, hw, hindex⟩ := exists_visit_of_le hv (k := u.index + 1) (by omega)
  obtain ⟨u', hu', hu'index, hgoes, _⟩ := exists_visit_before hw hindex
  rw [visit_unique hu' hu hu'index, hends] at hgoes
  contradiction

theorem length_course_of_ends {v : Visit α β σ} (hv : v ∈ S.course)
    (hends : v.ends S = true) : S.course.length = v.index + 1 := by
  obtain ⟨hlt, _⟩ := List.getElem?_eq_some_iff.mp (course_getElem?_index hv)
  by_contra hne
  have hnext : S.course.length - 1 < S.course.length := by omega
  have hle := index_le_of_ends hv hends (List.getElem_mem hnext)
  have hplace := (courseFrom_getElem?_place (List.getElem?_eq_getElem hnext)).1
  rw [hplace] at hle
  omega

/-- What holds of the first visit and of every visit behind a stretch of visits it holds of, holds
of all visits. -/
theorem visit_induction {P : Visit α β σ → Prop}
    (hfirst : ∀ v ∈ S.course, v.index = 0 → v.walk = S.start → P v)
    (hnext : ∀ u ∈ S.course, ∀ v ∈ S.course, v.index = u.index + 1 → v.walk = u.after S →
      (∀ w ∈ S.course, w.index ≤ u.index → P w) → P v)
    {v : Visit α β σ} (hv : v ∈ S.course) : P v := by
  induction hindex : v.index using Nat.strongRecOn generalizing v with
  | ind index ih =>
      cases index with
      | zero => exact hfirst v hv hindex (walk_of_index_zero hv hindex)
      | succ k =>
          obtain ⟨u, hu, huk, _, hwalk⟩ := exists_visit_before hv hindex
          refine hnext u hu v hv (by omega) hwalk ?_
          intro w hw hle
          exact ih w.index (by omega) hw rfl

/-! ## The tour as the sum of its visits -/

theorem runFrom_cons (index : Nat) (c : Command) (rest : List Command) (w : Walk α β σ) :
    Walk.runFrom S.habit S.builder S.source index (c :: rest) w =
      let v : Visit α β σ := ⟨index, c, rest, w⟩
      if v.ends S then ⟨v.after S, rest.length⟩
      else Walk.runFrom S.habit S.builder S.source (index + 1) rest (v.after S) :=
  rfl

/-- What can be told from a walk, if every command changes it by what can be told from the visit,
is at the end what the visits make of it one after another. -/
theorem view_runFrom {γ : Type} (view : Walk α β σ → γ) (next : γ → Visit α β σ → γ)
    (hnext : ∀ v : Visit α β σ, view (v.after S) = next (view v.walk) v)
    (commands : List Command) (index : Nat) (w : Walk α β σ) :
    view (Walk.runFrom S.habit S.builder S.source index commands w).walk =
      (S.courseFrom index commands w).foldl next (view w) := by
  induction commands generalizing index w with
  | nil => rfl
  | cons c rest ih =>
      have hhead := hnext ⟨index, c, rest, w⟩
      rw [runFrom_cons]
      simp only [courseFrom, List.foldl_cons, ← hhead]
      cases hends : Visit.ends S ⟨index, c, rest, w⟩ with
      | true => rfl
      | false => exact ih (index + 1) _

theorem runFrom_walk_eq (commands : List Command) (index : Nat) (w : Walk α β σ) :
    (Walk.runFrom S.habit S.builder S.source index commands w).walk =
      (S.courseFrom index commands w).getLast?.elim w (Visit.after S) := by
  induction commands generalizing index w with
  | nil => rfl
  | cons c rest ih =>
      rw [runFrom_cons]
      simp only [courseFrom, List.getLast?_cons]
      cases hends : Visit.ends S ⟨index, c, rest, w⟩ with
      | true => simp
      | false =>
          simp only [Bool.false_eq_true, if_false, ih]
          cases (S.courseFrom (index + 1) rest (Visit.after S ⟨index, c, rest, w⟩)).getLast? <;> rfl

/-- At the end the walk is what the last visit has left. -/
theorem tour_walk_eq (S : Setting α β σ) :
    S.course = [] ∧ S.tour.walk = S.start ∨
      ∃ v ∈ S.course, v.index + 1 = S.course.length ∧ S.tour.walk = v.after S := by
  have hwalk : S.tour.walk = S.course.getLast?.elim S.start (Visit.after S) :=
    runFrom_walk_eq S.commands 0 S.start
  cases hlast : S.course.getLast? with
  | none => exact Or.inl ⟨List.getLast?_eq_none_iff.mp hlast, by simp [hwalk, hlast]⟩
  | some v =>
      have hv := List.mem_of_getLast? hlast
      have hpos := List.length_pos_of_mem hv
      have hindex : v.index = S.course.length - 1 := by
        rw [List.getLast?_eq_getElem?] at hlast
        exact index_eq_of_getElem? hlast
      exact Or.inr ⟨v, hv, by omega, by simp [hwalk, hlast]⟩

section

variable {P : Nat → Walk α β σ → Prop} (hstart : P 0 S.start)
  (hafter : ∀ v ∈ S.course, P v.index v.walk → P (v.index + 1) (v.after S))

include hstart hafter

/-- What holds at the start and is kept by every command holds all the way. -/
theorem kept_of_mem {v : Visit α β σ} (hv : v ∈ S.course) : P v.index v.walk := by
  refine visit_induction (P := fun v => P v.index v.walk) ?_ ?_ hv
  · intro v _ hzero hwalk
    rw [hzero, hwalk]
    exact hstart
  · intro u hu v _ hindex hwalk ih
    rw [hindex, hwalk]
    exact hafter u hu (ih u hu (Nat.le_refl _))

theorem kept_tour : P S.course.length S.tour.walk := by
  rcases S.tour_walk_eq with ⟨hnone, hwalk⟩ | ⟨v, hv, hindex, hwalk⟩
  · rw [hnone, hwalk]
    exact hstart
  · rw [← hindex, hwalk]
    exact hafter v hv (kept_of_mem hstart hafter hv)

end

theorem length_courseFrom_add_skipped (commands : List Command) (index : Nat)
    (w : Walk α β σ) :
    (S.courseFrom index commands w).length +
        (Walk.runFrom S.habit S.builder S.source index commands w).skipped =
      commands.length := by
  induction commands generalizing index w with
  | nil => rfl
  | cons c rest ih =>
      rw [runFrom_cons]
      simp only [courseFrom, List.length_cons]
      cases hends : Visit.ends S ⟨index, c, rest, w⟩ with
      | true => simp [Nat.add_comm]
      | false =>
          have hrest := ih (index + 1) (Visit.after S ⟨index, c, rest, w⟩)
          simp only [Bool.false_eq_true, if_false]
          omega

private theorem exists_ends_of_skipped_from {commands : List Command} {index : Nat}
    {w : Walk α β σ}
    (hskipped : (Walk.runFrom S.habit S.builder S.source index commands w).skipped ≠ 0) :
    ∃ v ∈ S.courseFrom index commands w, v.ends S = true := by
  induction commands generalizing index w with
  | nil => exact absurd rfl hskipped
  | cons c rest ih =>
      rw [runFrom_cons] at hskipped
      simp only [courseFrom, List.mem_cons, exists_eq_or_imp]
      cases hends : Visit.ends S ⟨index, c, rest, w⟩ with
      | true => exact Or.inl rfl
      | false =>
          simp only [hends, Bool.false_eq_true, if_false] at hskipped ⊢
          exact Or.inr (ih hskipped)

theorem exists_ends_of_skipped (hskipped : S.tour.skipped ≠ 0) :
    ∃ v ∈ S.course, v.ends S = true :=
  exists_ends_of_skipped_from hskipped

theorem length_course_add_skipped : S.course.length + S.tour.skipped = S.commands.length :=
  length_courseFrom_add_skipped S.commands 0 S.start

theorem length_course_of_read (hread : S.tour.stoppedEarly = false) :
    S.course.length = S.commands.length := by
  have hskipped : S.tour.skipped = 0 := by simpa [Tour.stoppedEarly] using hread
  simpa [hskipped] using length_course_add_skipped (S := S)

theorem map_index_course : S.course.map Visit.index = List.range S.course.length := by
  apply List.ext_getElem?
  intro k
  by_cases hk : k < S.course.length
  · have hindex := index_eq_of_getElem? (List.getElem?_eq_getElem hk)
    simp [hk, hindex]
  · simp [hk]

/-- The segments are drawn in the order of their commands. -/
theorem map_index_draws :
    S.draws.map Visit.index =
      (List.range S.course.length).filter fun i => S.commands[i]? = some .forward := by
  rw [← map_index_course, List.filter_map, draws]
  apply congrArg
  apply List.filter_congr
  intro v hv
  simp [command_at_index hv]

/-- What is skipped is what stands behind the command that filled the builder. -/
theorem skipped_of_ends {v : Visit α β σ} (hv : v ∈ S.course) (hends : v.ends S = true) :
    S.tour.skipped = v.rest.length := by
  have hlast := length_course_of_ends hv hends
  have htotal := length_course_add_skipped (S := S)
  have hrest := congrArg List.length (drop_index hv)
  simp only [List.length_drop, Visit.ahead, List.length_cons] at hrest
  omega

end Setting

namespace Walk

variable (habit : Habit α) (builder : Builder α β) (source : Source α σ) (w : Walk α β σ)

theorem sprout_eq (rest : List Command) :
    w.sprout habit source rest =
      let (leaf, s) := placeLeaf? habit.stepLength habit.tipsOnly rest w.turtle.position
        w.turtle.orientation source w.source
      { w with foliage := leaf.elim w.foliage w.foliage.push, source := s } := by
  unfold sprout
  split <;> simp_all

theorem mark_eq (index : Nat) :
    w.mark habit index =
      { w with
        turtle := { w.turtle with
          width := if w.turtle.taper.endsAt index then w.turtle.width
            else w.turtle.width * habit.taper
          taper := if w.turtle.taper.endsAt index then TaperRun.inactive
            else w.turtle.taper } } := by
  unfold mark
  split <;> rfl

omit [Scalar α] in
theorem pop_eq :
    w.pop =
      { w with
        turtle := w.stack.headD
          { w.turtle with taper := { w.turtle.taper with unmarked := false } }
        stack := w.stack.tail } := by
  unfold pop
  split <;> simp_all

end Walk

namespace Visit

variable (S : Setting α β σ) (v : Visit α β σ)

theorem after_builder :
    (v.after S).builder =
      (v.call? S).elim v.walk.builder
        (fun call => (S.builder.add v.walk.builder call.1 call.2).1) := by
  cases hcommand : v.command <;>
    simp [after, call?, hcommand, Walk.step, Walk.sprout_eq, Walk.mark_eq, Walk.pop_eq,
      Walk.draw, Walk.turn, Walk.turnAround, Walk.push, segment, taperRun, ahead, origin]

theorem after_foliage :
    (v.after S).foliage = (v.leaf? S).elim v.walk.foliage v.walk.foliage.push := by
  cases hcommand : v.command <;>
    simp [after, leaf?, hcommand, Walk.step, Walk.sprout_eq, Walk.mark_eq, Walk.pop_eq,
      Walk.draw, Walk.turn, Walk.turnAround, Walk.push]

theorem after_extent :
    (v.after S).extent =
      (v.call? S).elim v.walk.extent (fun call => v.walk.extent.insert call.1.stop) := by
  cases hcommand : v.command <;>
    simp [after, call?, hcommand, Walk.step, Walk.sprout_eq, Walk.mark_eq, Walk.pop_eq,
      Walk.draw, Walk.turn, Walk.turnAround, Walk.push, segment, taperRun, ahead]

theorem after_segments :
    (v.after S).segments =
      (v.call? S).elim v.walk.segments (fun _ => v.walk.segments + 1) := by
  cases hcommand : v.command <;>
    simp [after, call?, hcommand, Walk.step, Walk.sprout_eq, Walk.mark_eq, Walk.pop_eq,
      Walk.draw, Walk.turn, Walk.turnAround, Walk.push]

theorem after_source :
    (v.after S).source = (S.source.take (v.sampleCount S) v.walk.source).2 := by
  cases hcommand : v.command <;>
    simp [after, sampleCount, hcommand, Walk.step, Walk.sprout_eq, Walk.mark_eq, Walk.pop_eq,
      Walk.draw, Walk.turn, Walk.turnAround, Walk.push, Source.take]
  case leaf =>
    unfold placeLeaf?
    split <;> simp [Source.take]

end Visit

omit [Scalar α] in
theorem Source.take_add (source : Source α σ) (m n : Nat) (s : σ) :
    source.take (m + n) s =
      ((source.take m s).1 ++ (source.take n (source.take m s).2).1,
        (source.take n (source.take m s).2).2) := by
  induction m generalizing s with
  | zero => simp [take]
  | succ m ih =>
      rw [show m + 1 + n = (m + n) + 1 by omega]
      simp only [take, ih (source.next s).2, List.cons_append]

namespace Setting

variable {S : Setting α β σ}

theorem view_tour {γ δ : Type} (view : Walk α β σ → γ) (part? : Visit α β σ → Option δ)
    (next : γ → δ → γ)
    (hnext : ∀ v : Visit α β σ,
      view (v.after S) = (part? v).elim (view v.walk) (next (view v.walk))) :
    view S.tour.walk = (S.course.filterMap part?).foldl next (view S.start) := by
  rw [List.foldl_filterMap]
  refine view_runFrom view _ ?_ S.commands 0 S.start
  intro v
  rw [hnext v]
  cases part? v <;> rfl

theorem tour_builder :
    S.tour.walk.builder =
      S.calls.foldl (fun b call => (S.builder.add b call.1 call.2).1) S.start.builder :=
  view_tour Walk.builder _ _ (Visit.after_builder S)

theorem tour_foliage :
    S.tour.walk.foliage = S.leaves.foldl Foliage.push (Foliage.empty S.habit.leafScale) :=
  view_tour Walk.foliage _ _ (Visit.after_foliage S)

theorem tour_extent :
    S.tour.walk.extent =
      S.segments.foldl (fun e segment => e.insert segment.stop)
        (Extent.empty.insert Vec3.zero) := by
  rw [segments, List.foldl_map]
  exact view_tour Walk.extent _ _ (Visit.after_extent S)

theorem tour_segments : S.tour.walk.segments = S.segments.length := by
  have hcount : S.tour.walk.segments = S.calls.foldl (fun n _ => n + 1) 0 :=
    view_tour Walk.segments _ _ (Visit.after_segments S)
  rw [hcount, segments, List.length_map]
  simp

private theorem samples_courseFrom (commands : List Command) (index : Nat) (w : Walk α β σ) :
    ((S.courseFrom index commands w).flatMap (Visit.samples S),
        (Walk.runFrom S.habit S.builder S.source index commands w).walk.source) =
      S.source.take ((S.courseFrom index commands w).map (Visit.sampleCount S)).sum w.source := by
  induction commands generalizing index w with
  | nil => rfl
  | cons c rest ih =>
      have hsource := Visit.after_source S ⟨index, c, rest, w⟩
      rw [runFrom_cons]
      simp only [courseFrom, List.flatMap_cons, List.map_cons, List.sum_cons,
        Source.take_add, ← hsource]
      cases hends : Visit.ends S ⟨index, c, rest, w⟩ with
      | true => simp [Visit.samples, Source.take]
      | false =>
          simp only [Bool.false_eq_true, if_false]
          rw [← ih (index + 1)]
          rfl

/-- The samples drawn are the first ones that the source has to give. -/
theorem samples_eq_take : S.samples = (S.source.take S.sampleCount S.chance).1 :=
  congrArg Prod.fst (samples_courseFrom S.commands 0 S.start)

theorem tour_source : S.tour.walk.source = (S.source.take S.sampleCount S.chance).2 :=
  congrArg Prod.snd (samples_courseFrom S.commands 0 S.start)

end Setting

end PlantGrowth
