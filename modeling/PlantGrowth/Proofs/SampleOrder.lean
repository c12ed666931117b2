import PlantGrowth.Proofs.OutputConsistency
import PlantGrowth.Proofs.ParallelWalks

/-!
# Which symbol draws which sample

A walk draws one sample for a turn and two for a leaf that it places, and none for anything else.
How many it has drawn at a position can therefore be counted on the word alone: the turns before
the position, and twice the leaves.  Where a leaf is placed is decided by looking ahead, so the
angles, the widths and the builder have no part in it, nor has what the samples are.
-/

namespace PlantGrowth

variable {α β σ : Type}

def Command.isTurn : Command → Bool
  | .turn _ _ => true
  | _ => false

/-- Whether a leaf is placed at position `i`, as far as the walk gets there. -/
def placesLeaf (tipsOnly : Bool) (commands : List Command) (i : Nat) : Bool :=
  commands[i]? == some .leaf && leafAllowed tipsOnly (commands.drop (i + 1))

def turnsBefore (commands : List Command) (i : Nat) : Nat :=
  (commands.take i).countP Command.isTurn

def leavesBefore (tipsOnly : Bool) (commands : List Command) (i : Nat) : Nat :=
  (List.range i).countP (placesLeaf tipsOnly commands)

section

variable {commands : List Command} {i : Nat}

theorem turnsBefore_succ {c : Command} (hc : commands[i]? = some c) :
    turnsBefore commands (i + 1) = turnsBefore commands i + if c.isTurn then 1 else 0 := by
  rw [turnsBefore, turnsBefore, List.take_add_one, hc, Option.toList_some, List.countP_append,
    List.countP_singleton]

theorem leavesBefore_succ (tipsOnly : Bool) (commands : List Command) (i : Nat) :
    leavesBefore tipsOnly commands (i + 1) =
      leavesBefore tipsOnly commands i + if placesLeaf tipsOnly commands i then 1 else 0 := by
  rw [leavesBefore, leavesBefore, List.range_succ, List.countP_append, List.countP_singleton]

end

namespace Source

variable (source : Source α σ)

/-- What is left of the source when `n` samples have been drawn. -/
def after (s : σ) (n : Nat) : σ := (source.take n s).2

/-- Sample number `n` of the source, counted from zero. -/
def sample (s : σ) (n : Nat) : α := (source.next (source.after s n)).1

theorem after_add (s : σ) (m n : Nat) :
    source.after s (m + n) = source.after (source.after s m) n := by
  rw [after, take_add]
  rfl

theorem next_after (s : σ) (n : Nat) :
    source.next (source.after s n) = (source.sample s n, source.after s (n + 1)) := by
  rw [after_add]
  rfl

theorem counted_after (s : σ) (drawn n : Nat) :
    source.counted.after (s, drawn) n = (source.after s n, drawn + n) := by
  induction n with
  | zero => rfl
  | succ n ih =>
      rw [after_add, ih, after_add]
      rfl

end Source

/-! ## What one command draws -/

variable [Scalar α]

namespace Visit

variable (S : Setting α β σ) (v : Visit α β σ)

theorem sampleCount_eq :
    v.sampleCount S =
      if v.command.isTurn then 1 else if (v.leaf? S).isSome then 2 else 0 := by
  rw [leaf?_isSome]
  cases hcommand : v.command <;> simp [sampleCount, hcommand, Command.isTurn]

theorem after_foliage_count :
    (v.after S).foliage.count =
      v.walk.foliage.count + if (v.leaf? S).isSome then 1 else 0 := by
  rw [after_foliage]
  cases v.leaf? S with
  | none => rfl
  | some leaf => exact Array.size_push _

variable {S v}

theorem leaf?_isSome_eq (hv : v ∈ S.course) :
    (v.leaf? S).isSome = placesLeaf S.habit.tipsOnly S.commands v.index := by
  rw [leaf?_isSome, placesLeaf, Setting.command_at_index hv, Setting.drop_index_succ hv]
  rfl

end Visit

namespace Setting

/-- At position `i` the walk has placed the leaves before it, and has drawn the samples for them and
for the turns. -/
structure DrawnTo (S : Setting α β σ) (i : Nat) (w : Walk α β σ) : Prop where
  leaves : w.foliage.count = leavesBefore S.habit.tipsOnly S.commands i
  source : w.source =
    S.source.after S.chance (turnsBefore S.commands i + 2 * w.foliage.count)

variable {S : Setting α β σ}

theorem drawnTo_start : S.DrawnTo 0 S.start := ⟨rfl, rfl⟩

theorem drawnTo_after {v : Visit α β σ} (hv : v ∈ S.course)
    (h : S.DrawnTo v.index v.walk) : S.DrawnTo (v.index + 1) (v.after S) := by
  constructor
  · rw [Visit.after_foliage_count, h.leaves, leavesBefore_succ, Visit.leaf?_isSome_eq hv]
  · have hturns := turnsBefore_succ (command_at_index hv)
    have hcount : turnsBefore S.commands (v.index + 1) + 2 * (v.after S).foliage.count =
        turnsBefore S.commands v.index + 2 * v.walk.foliage.count + v.sampleCount S := by
      rw [Visit.after_foliage_count, hturns, Visit.sampleCount_eq]
      -- a turn places no leaf, so no command counts for both
      cases hcommand : v.command with
      | turn axis positive =>
          have hnone : v.leaf? S = none := by simp [Visit.leaf?, hcommand]
          simp only [hnone, Command.isTurn, Option.isSome_none, if_true, Bool.false_eq_true,
            if_false]
          omega
      | _ =>
          simp only [Command.isTurn, Bool.false_eq_true, if_false]
          split <;> omega
    rw [hcount, Source.after_add, ← h.source]
    exact Visit.after_source S v

theorem drawnTo_of_mem {v : Visit α β σ} (hv : v ∈ S.course) : S.DrawnTo v.index v.walk :=
  kept_of_mem drawnTo_start (fun _ => drawnTo_after) hv

theorem drawnTo_tour (S : Setting α β σ) : S.DrawnTo S.course.length S.tour.walk :=
  kept_tour drawnTo_start fun _ => drawnTo_after

end Setting

/-! ## Counting while drawing -/

def Walk.uncounted (w : Walk α β (σ × Nat)) : Walk α β σ := { w with source := w.source.1 }

def Visit.uncounted (v : Visit α β (σ × Nat)) : Visit α β σ := v.withWalk v.walk.uncounted

/-- The same walk, with a source that counts the samples it has handed out. -/
def Setting.counted (S : Setting α β σ) : Setting α β (σ × Nat) :=
  S.withChance S.source.counted (S.chance, 0)

theorem Visit.uncounted_after (S : Setting α β σ) (v : Visit α β (σ × Nat)) :
    v.uncounted.after S = (v.after S.counted).uncounted := by
  cases hcommand : v.command with
  | leaf =>
      simp only [after, uncounted, withWalk, hcommand, Walk.step, Walk.sprout_eq, placeLeaf?,
        Walk.uncounted, Setting.counted, Setting.withChance]
      split <;> rfl
  | pop =>
      simp only [after, uncounted, withWalk, hcommand, Walk.step, Walk.pop_eq, Walk.uncounted]
  | taperMark =>
      simp only [after, uncounted, withWalk, hcommand, Walk.step, Walk.mark_eq, Walk.uncounted]
      rfl
  | _ => simp only [after, uncounted, withWalk, hcommand, Walk.step] <;> rfl

namespace Setting

theorem parallel_counted (S : Setting α β σ) :
    S.Parallel S.counted fun w w' => w = w'.uncounted where
  commands := rfl
  start := rfl
  step := by
    rintro ⟨index, c, rest, _⟩ w' rfl
    have hafter := Visit.uncounted_after S ⟨index, c, rest, w'⟩
    refine ⟨?_, hafter⟩
    have hends := congrArg (fun w => w.ends S.builder c) hafter
    exact hends.symm

/-- Counting the samples changes nothing. -/
theorem course_counted (S : Setting α β σ) : S.counted.course.map Visit.uncounted = S.course := by
  have hsame : S.counted.course.filterMap (fun v => some v.uncounted) =
      S.course.filterMap some := by
    apply S.parallel_counted.filterMap_course
    rintro ⟨index, c, rest, _⟩ w' rfl
    rfl
  rwa [List.filterMap_some, List.filterMap_eq_map'] at hsame

theorem tour_counted (S : Setting α β σ) : S.tour.walk = S.counted.tour.walk.uncounted :=
  S.parallel_counted.tour.2

end Setting

/-- The samples that the command draws are those from number `n` on: one for a turn, and two for a
leaf that is placed, which is twisted by the first about `x` and by the second about `y`. -/
structure Visit.DrawsFrom (S : Setting α β σ) (v : Visit α β (σ × Nat)) (n : Nat) : Prop where
  before : v.walk.source = (S.source.after S.chance n, n)
  turn : ∀ axis positive, v.command = .turn axis positive →
    let angle := jittered S.habit.angle S.habit.variance (S.source.sample S.chance n)
    (v.after S.counted).turtle =
      v.walk.turtle.rotate axis.direction (if positive then angle else -angle)
  leaf : ∀ leaf, v.leaf? S.counted = some leaf →
    leaf =
      { position := v.walk.turtle.position
        rotation := v.walk.turtle.orientation *
          (Rotation.aboutX (S.source.sample S.chance n) *
            Rotation.aboutY (S.source.sample S.chance (n + 1)))
        scale := S.habit.stepLength * Scalar.half }
  drawn : (v.after S.counted).source.2 =
    n + if v.command.isTurn then 1 else if (v.leaf? S.counted).isSome then 2 else 0

namespace Setting

variable {S : Setting α β σ}

omit [Scalar α] in
theorem source_of_drawnTo {i : Nat} {w : Walk α β (σ × Nat)} (h : S.counted.DrawnTo i w) :
    w.source = (S.source.after S.chance (turnsBefore S.commands i + 2 * w.foliage.count),
      turnsBefore S.commands i + 2 * w.foliage.count) := by
  have hsource := Source.counted_after S.source S.chance 0
    (turnsBefore S.commands i + 2 * w.foliage.count)
  rw [Nat.zero_add] at hsource
  rw [← hsource]
  exact h.source

omit [Scalar α] in
/-- How many samples are drawn before a position can be read off the word. -/
theorem drawn_of_drawnTo {i : Nat} {w : Walk α β (σ × Nat)} (h : S.counted.DrawnTo i w) :
    w.source.2 = turnsBefore S.commands i + 2 * leavesBefore S.habit.tipsOnly S.commands i := by
  rw [source_of_drawnTo h, h.leaves]
  rfl

theorem drawsFrom_of_mem {v : Visit α β (σ × Nat)} (hv : v ∈ S.counted.course) :
    v.DrawsFrom S (turnsBefore S.commands v.index + 2 * v.walk.foliage.count) := by
  have hsource := source_of_drawnTo (drawnTo_of_mem hv)
  generalize turnsBefore S.commands v.index + 2 * v.walk.foliage.count = n at *
  constructor
  · exact hsource
  · intro axis positive hturn
    rw [Visit.after_turtle, hturn, hsource]
    rfl
  · intro leaf hleaf
    have hnext : S.source.after S.chance (n + 1) = (S.source.next (S.source.after S.chance n)).2 :=
      (congrArg Prod.snd (S.source.next_after S.chance n)).symm
    rw [Source.sample, Source.sample, hnext]
    rw [Visit.leaf?_eq, hsource] at hleaf
    split at hleaf
    · exact (Option.some.inj hleaf).symm
    · contradiction
  · rw [Visit.after_source, hsource, Visit.sampleCount_eq]
    exact congrArg Prod.snd (Source.counted_after S.source _ n _)

/-- Which command draws which samples is a matter of positions: a turn draws the sample that has the
number of the turns before it and twice the leaves before it, a leaf the two samples from there on.
No other command draws any.  So two walks over one word that allow leaves at the same places draw
alike, as far as both of them go, whatever else they differ in. -/
theorem samples_drawn_by_position (S : Setting α β σ) :
    S.counted.course.map Visit.uncounted = S.course ∧
    (∀ v ∈ S.counted.course,
      v.DrawsFrom S (turnsBefore S.commands v.index + 2 * v.walk.foliage.count) ∧
      v.walk.foliage.count = leavesBefore S.habit.tipsOnly S.commands v.index) ∧
    S.counted.tour.walk.source.2 =
      turnsBefore S.commands S.course.length + 2 * S.tour.walk.foliage.count ∧
    ∀ {α' β' σ' : Type} [Scalar α'] (S' : Setting α' β' σ'),
      S'.commands = S.commands → S'.habit.tipsOnly = S.habit.tipsOnly →
      ∀ v ∈ S.counted.course, ∀ v' ∈ S'.counted.course, v'.index = v.index →
        v'.walk.source.2 = v.walk.source.2 ∧
          (v'.after S'.counted).source.2 = (v.after S.counted).source.2 := by
  refine ⟨S.course_counted, ?_, ?_, ?_⟩
  · intro v hv
    exact ⟨drawsFrom_of_mem hv, (drawnTo_of_mem hv).leaves⟩
  · have hlength : S.counted.course.length = S.course.length := by
      rw [← S.course_counted, List.length_map]
    have htour := source_of_drawnTo S.counted.drawnTo_tour
    rw [htour, hlength, S.tour_counted]
    rfl
  · intro α' β' σ' _ S' hcommands htips v hv v' hv' hindex
    have hbefore := drawnTo_of_mem hv
    have hbefore' := drawnTo_of_mem hv'
    have hafter := drawn_of_drawnTo (drawnTo_after hv hbefore)
    have hafter' := drawn_of_drawnTo (drawnTo_after hv' hbefore')
    rw [hafter, hafter', drawn_of_drawnTo hbefore, drawn_of_drawnTo hbefore', hindex, hcommands,
      htips]
    exact ⟨rfl, rfl⟩

example :
    (shrub Float32 9).counted.course.map (fun v => v.walk.source.2) =
      [0, 0, 0, 1, 1, 1, 3, 3, 3, 3, 3, 3] := by decide

end Setting

end PlantGrowth
