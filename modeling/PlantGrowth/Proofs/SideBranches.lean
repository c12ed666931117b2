import PlantGrowth.Proofs.BalancedWords
import PlantGrowth.Proofs.BuilderIndependence
import PlantGrowth.Proofs.Insertion

/-!
# Side branches keep to themselves

A side branch is inserted into a word.  The look-ahead reads over it, since a balanced word never
gets back to the depth where marks and segments count, and the walk comes out of it with the turtle
and the open branches it went in with.  So when chance always gives the same sample, the rest of
the plant does not know of the branch: it has the same segments with it and without it, and the
same leaves where leaves do not depend on what grows ahead of them.
-/

namespace PlantGrowth

open Brackets

variable {α β σ : Type}

def sideBranch (inner : List Command) : List Command := .push :: (inner ++ [.pop])

/-! ## The look-ahead over a side branch -/

namespace MarkedRun

/-- Inside a side branch nothing counts. -/
theorem scanFrom_nested {inner : List Command} (h : Nested inner)
    (depth segments index : Nat) (rest : List Command) :
    scanFrom (depth + 1) segments index (inner ++ rest) =
      scanFrom (depth + 1) segments (index + inner.length) rest := by
  induction h generalizing depth index rest with
  | nil => rfl
  | @command c word hrise _ ih =>
      have hnext : index + (c :: word).length = index + 1 + word.length := by
        rw [List.length_cons]
        omega
      rw [hnext, ← ih]
      cases c with
      | push => simp [Command.rise] at hrise
      | pop => simp [Command.rise] at hrise
      | _ => rfl
  | @branch inner word _ _ ihinner ihword =>
      -- one level deeper and back, which is why the depth is left open
      have hnext : index + (Command.push :: (inner ++ .pop :: word)).length =
          index + 1 + inner.length + 1 + word.length := by
        simp only [List.length_cons, List.length_append]
        omega
      rw [hnext, ← ihword, List.cons_append, List.append_assoc]
      simp only [scanFrom]
      rw [ihinner]
      rfl

theorem readsOver_sideBranch {inner : List Command} (h : Nested inner) :
    ReadsOver (sideBranch inner) := by
  intro depth segments index rest
  have hnext : index + (sideBranch inner).length = index + 1 + inner.length + 1 := by
    simp only [sideBranch, List.length_cons, List.length_append, List.length_nil]
    omega
  rw [hnext, sideBranch, List.cons_append, List.append_assoc]
  simp only [scanFrom]
  rw [scanFrom_nested h]
  rfl

end MarkedRun

/-! ## The walk over a side branch -/

namespace Setting

variable [Scalar α] {S : Setting α β σ} (hfree : ∀ b, S.builder.full b = false)

include hfree

theorem ends_eq_false (v : Visit α β σ) : v.ends S = false := by
  simp [Visit.ends, Walk.ends, hfree]

theorem getsOver_branch {inner rest behind : List Command} {i : Nat} {w : Walk α β σ}
    {P : Walk α β σ → Prop}
    (hinner : ∀ i behind (w : Walk α β σ),
      S.GetsOver inner i behind w fun w' => w'.stack = w.stack)
    (hrest : ∀ i (w' : Walk α β σ), w'.turtle = w.turtle → w'.stack = w.stack →
      S.GetsOver rest i behind w' P) :
    S.GetsOver (.push :: (inner ++ .pop :: rest)) i behind w P := by
  apply GetsOver.cons (ends_eq_false hfree _)
  apply GetsOver.append
  refine (hinner _ _ _).mono ?_
  intro w' hstack
  rw [Visit.after_stack] at hstack
  apply GetsOver.cons (ends_eq_false hfree _)
  apply hrest
  · rw [Visit.after_turtle_of_pop S _ rfl, hstack]
    rfl
  · rw [Visit.after_stack]
    simp only [hstack, List.tail_cons]

theorem getsOver_nested {word : List Command} (h : Nested word) (i : Nat)
    (behind : List Command) (w : Walk α β σ) :
    S.GetsOver word i behind w fun w' => w'.stack = w.stack := by
  induction h generalizing i behind w with
  | nil => exact GetsOver.nil rfl
  | @command c word hrise _ ih =>
      apply GetsOver.cons (ends_eq_false hfree _)
      refine (ih _ _ _).mono ?_
      intro w' hstack
      rw [hstack, Visit.after_stack]
      cases c with
      | push => simp [Command.rise] at hrise
      | pop => simp [Command.rise] at hrise
      | _ => rfl
  | @branch inner word _ _ ihinner ihword =>
      apply getsOver_branch hfree ihinner
      intro i w' _ hstack
      rw [← hstack]
      exact ihword _ _ _

/-- The walk leaves a side branch as it entered it. -/
theorem getsOver_sideBranch {inner : List Command} (h : Nested inner) (i : Nat)
    (behind : List Command) (w : Walk α β σ) :
    S.GetsOver (sideBranch inner) i behind w
      fun w' => w'.turtle = w.turtle ∧ w'.stack = w.stack := by
  apply getsOver_branch hfree (getsOver_nested hfree h)
  intro i w' hturtle hstack
  exact GetsOver.nil ⟨hturtle, hstack⟩

end Setting

/-! ## Two walks that draw the same sample whenever they draw one -/

/-- The source always gives the same sample. -/
def Source.IsConstant (source : Source α σ) : Prop := ∃ sample, ∀ s, (source.next s).1 = sample

theorem Source.IsConstant.next_eq {source : Source α σ} (h : source.IsConstant) (s s' : σ) :
    (source.next s).1 = (source.next s').1 := by
  obtain ⟨sample, hsample⟩ := h
  rw [hsample, hsample]

variable [Scalar α]

namespace Visit

def segment? (S : Setting α β σ) (v : Visit α β σ) : Option (Segment α) :=
  if v.command = .forward then some (v.segment S) else none

variable {S : Setting α Unit σ} {extra : List Command} {place : Nat} {v v' : Visit α Unit σ}

theorem leaf?_eq_of_constant (h : v.Corresponds extra place v')
    (hwalk : v.walk.StandsLike (moved place extra.length) v'.walk)
    (hconstant : S.source.IsConstant) (htips : S.habit.tipsOnly = false) :
    v'.leaf? S = v.leaf? S := by
  have hallowed : ∀ rest, leafAllowed S.habit.tipsOnly rest = true := by
    intro rest
    simp [leafAllowed, htips]
  rw [leaf?, leaf?, h.command]
  simp only [placeLeaf?, hallowed, if_true, hwalk.turtle]
  rw [hconstant.next_eq v'.walk.source v.walk.source,
    hconstant.next_eq (S.source.next v'.walk.source).2 (S.source.next v.walk.source).2]
  rfl

end Visit

namespace Setting

theorem goesAlong_sideBranch (S : Setting α β σ) (commands commands' : List Command)
    (hconstant : S.source.IsConstant) {inner : List Command} (hinner : Nested inner)
    (place : Nat) :
    GoesAlong (S.skeleton.withCommands commands) (S.skeleton.withCommands commands')
      (sideBranch inner) place (Walk.StandsLike (moved place (sideBranch inner).length)) := by
  have hfree : ∀ b, (S.skeleton.withCommands commands').builder.full b = false := fun _ => rfl
  constructor
  · intro v v' h hwalk
    refine ⟨?_, h.after_standsLike (MarkedRun.readsOver_sideBranch hinner) hwalk rfl ?_ ?_⟩
    · rw [ends_eq_false hfree, ends_eq_false (fun _ => rfl)]
    · exact fun _ => rfl
    · exact hconstant.next_eq _ _
  · intro w w' rest hwalk
    refine (getsOver_sideBranch hfree hinner place rest w').mono ?_
    rintro w'' ⟨hturtle, hstack⟩
    exact ⟨hturtle.trans hwalk.turtle, hstack.trans hwalk.stack⟩

/-! ## What stands outside a branch -/

/-- The segments drawn by commands other than the `count` ones from `place` on. -/
def segmentsOutside (S : Setting α β σ) (place count : Nat) : List (Segment α) :=
  (S.course.filter (Visit.isOutside place count)).filterMap (Visit.segment? S)

/-- The leaves placed by commands other than the `count` ones from `place` on. -/
def leavesOutside (S : Setting α β σ) (place count : Nat) : List (LeafTransform α) :=
  (S.course.filter (Visit.isOutside place count)).filterMap (Visit.leaf? S)

theorem segments_eq_filterMap (S : Setting α β σ) :
    S.segments = S.course.filterMap (Visit.segment? S) := by
  rw [segments, calls, List.map_filterMap]
  apply List.filterMap_congr
  intro v _
  unfold Visit.call? Visit.segment?
  split <;> rfl

section

variable {S : Setting α β σ} (hskipped : S.tour.skipped = 0) (place count : Nat)

include hskipped

theorem segmentsOutside_eq_skeleton :
    S.segmentsOutside place count = S.skeleton.segmentsOutside place count := by
  unfold segmentsOutside
  rw [← course_skeleton_eq hskipped, List.filter_map, List.filterMap_map]
  rfl

theorem leavesOutside_eq_skeleton :
    S.leavesOutside place count = S.skeleton.leavesOutside place count := by
  unfold leavesOutside
  rw [← course_skeleton_eq hskipped, List.filter_map, List.filterMap_map]
  rfl

end

section

variable (S : Setting α β σ) {front inner back : Word} (hinner : Balanced (Command.ofWord inner))
  (hconstant : S.source.IsConstant)

include hinner hconstant

private theorem filterMap_course_skeleton {δ : Type} {part part' : Visit α Unit σ → Option δ}
    (hpart : ∀ {v v' : Visit α Unit σ},
      v.Corresponds (sideBranch (Command.ofWord inner)) (Command.ofWord front).length v' →
        v.walk.StandsLike (moved (Command.ofWord front).length
          (sideBranch (Command.ofWord inner)).length) v'.walk → part' v' = part v) :
    ((S.withWord (front ++ ('[' :: (inner ++ ']' :: back)))).skeleton.course.filter
        (Visit.isOutside front.length (inner.length + 2))).filterMap part' =
      (S.withWord (front ++ back)).skeleton.course.filterMap part := by
  have hfront : front.length = (Command.ofWord front).length := (List.length_map _).symm
  have hbranch : inner.length + 2 = (sideBranch (Command.ofWord inner)).length := by
    simp [sideBranch, Command.ofWord]
  rw [hfront, hbranch]
  have hgoes := goesAlong_sideBranch S (Command.ofWord (front ++ back))
    (Command.ofWord (front ++ ('[' :: (inner ++ ']' :: back)))) hconstant hinner.nested
    (Command.ofWord front).length
  have hplain : (S.withWord (front ++ back)).skeleton.commands =
      Command.ofWord front ++ Command.ofWord back := List.map_append
  have hbranched : (S.withWord (front ++ ('[' :: (inner ++ ']' :: back)))).skeleton.commands =
      Command.ofWord front ++ (sideBranch (Command.ofWord inner) ++ Command.ofWord back) := by
    simp [skeleton, withWord, withCommands, Command.ofWord, sideBranch, Command.ofSymbol]
  exact hgoes.filterMap_course hplain hbranched ⟨rfl, rfl⟩ hpart

/-- What a plant has outside a side branch it has without the side branch.  A builder that is never
full reads both words to their ends. -/
theorem side_branch_leaves_rest_alone
    (hread : (S.withWord (front ++ back)).tour.stoppedEarly = false)
    (hread' : (S.withWord (front ++ ('[' :: (inner ++ ']' :: back)))).tour.stoppedEarly = false) :
    (S.withWord (front ++ ('[' :: (inner ++ ']' :: back)))).segmentsOutside front.length
        (inner.length + 2) = (S.withWord (front ++ back)).segments ∧
      (S.habit.tipsOnly = false →
        (S.withWord (front ++ ('[' :: (inner ++ ']' :: back)))).leavesOutside front.length
          (inner.length + 2) = (S.withWord (front ++ back)).leaves) := by
  have hskipped : (S.withWord (front ++ back)).tour.skipped = 0 := by
    simpa [Tour.stoppedEarly] using hread
  have hskipped' : (S.withWord (front ++ ('[' :: (inner ++ ']' :: back)))).tour.skipped = 0 := by
    simpa [Tour.stoppedEarly] using hread'
  constructor
  · rw [segmentsOutside_eq_skeleton hskipped', segments_eq_skeleton_of_skipped hskipped,
      segments_eq_filterMap]
    apply filterMap_course_skeleton S hinner hconstant
    intro v v' h hwalk
    rw [Visit.segment?, Visit.segment?, h.command,
      h.segment (MarkedRun.readsOver_sideBranch hinner.nested) hwalk rfl]
    rfl
  · intro htips
    rw [leavesOutside_eq_skeleton hskipped', leaves_eq_skeleton_of_skipped hskipped]
    apply filterMap_course_skeleton S hinner hconstant
    intro v v' h hwalk
    exact Visit.leaf?_eq_of_constant h hwalk hconstant htips

end

omit [Scalar α] in
/-- The branch stands within a run of segments that a mark behind it ends. -/
theorem side_branch_leaves_rest_alone_shrub :
    Balanced (Command.ofWord "+F![L]F".toList) ∧
      ((shrub Float32 9).withWord ("]F[F".toList ++
        ('[' :: ("+F![L]F".toList ++ ']' :: "F!L".toList)))).segmentsOutside 4 9 =
          ((shrub Float32 9).withWord ("]F[F".toList ++ "F!L".toList)).segments ∧
      ((shrub Float32 9).withWord ("]F[F".toList ++
        ('[' :: ("+F![L]F".toList ++ ']' :: "F!L".toList)))).leavesOutside 4 9 =
          ((shrub Float32 9).withWord ("]F[F".toList ++ "F!L".toList)).leaves := by
  have hbalanced : Balanced (Command.ofWord "+F![L]F".toList) := by decide
  have hconstant : (shrub Float32 9).source.IsConstant := ⟨Scalar.half, fun _ => rfl⟩
  have hread : ((shrub Float32 9).withWord ("]F[F".toList ++ "F!L".toList)).tour.stoppedEarly =
      false := by decide
  have hread' : ((shrub Float32 9).withWord ("]F[F".toList ++
      ('[' :: ("+F![L]F".toList ++ ']' :: "F!L".toList)))).tour.stoppedEarly = false := by decide
  obtain ⟨hsegments, hleaves⟩ :=
    side_branch_leaves_rest_alone (shrub Float32 9) hbalanced hconstant hread hread'
  exact ⟨hbalanced, hsegments, hleaves rfl⟩

end Setting

end PlantGrowth
