import PlantGrowth.Grammar.Basic
import PlantGrowth.Proofs.BranchRestoration

/-!
# Inserting a stretch into a word

A word with a stretch `extra` inserted at position `place` is walked like the word without it, if
the look-ahead reads over the stretch and the walk comes out of it as it went in.  Positions behind
the stretch are moved by its length, and with them the marks that the turtle has noted; nothing
else of the turtle or the open branches changes.  The visits outside the stretch then correspond
one to one to the visits of the word without it.
-/

namespace PlantGrowth

/-- Where position `i` goes when `count` commands are inserted at `place`. -/
def moved (place count i : Nat) : Nat := if i < place then i else i + count

theorem moved_of_lt {place count i : Nat} (h : i < place) : moved place count i = i := if_pos h

theorem moved_of_le {place count i : Nat} (h : place ≤ i) :
    moved place count i = i + count :=
  if_neg (Nat.not_lt.mpr h)

theorem moved_injective (place count : Nat) : Function.Injective (moved place count) := by
  intro i j h
  unfold moved at h
  split at h <;> split at h <;> omega

/-! ## Noted marks -/

def MarkedRun.rename (f : Nat → Nat) (r : MarkedRun) : MarkedRun := { r with mark := f r.mark }

section

variable {α : Type} (f : Nat → Nat)

def TaperRun.rename (t : TaperRun α) : TaperRun α := { t with mark := t.mark.map f }

/-- The turtle with the mark it has noted under its new position. -/
def Turtle.rename (t : Turtle α) : Turtle α := { t with taper := t.taper.rename f }

namespace TaperRun

variable (t : TaperRun α)

@[simp] theorem rename_isActive : (t.rename f).isActive = t.isActive := rfl

@[simp] theorem rename_needsScan : (t.rename f).needsScan = t.needsScan := rfl

@[simp] theorem rename_afterSegment : (t.rename f).afterSegment = t.afterSegment.rename f := by
  unfold afterSegment
  rw [rename_isActive]
  split <;> rfl

variable {f} in
theorem rename_endsAt (hf : Function.Injective f) (i : Nat) :
    (t.rename f).endsAt (f i) = t.endsAt i := by
  unfold endsAt rename
  cases t.mark with
  | none => rfl
  | some m => simp [hf.eq_iff]

variable [Scalar α]

theorem begin_rename (taper : α) {i i' : Nat} {ahead ahead' : List Command}
    (hscan : MarkedRun.scan i' ahead' = (MarkedRun.scan i ahead).map (MarkedRun.rename f)) :
    begin taper i' ahead' = (begin taper i ahead).rename f := by
  unfold begin
  rw [hscan]
  cases MarkedRun.scan i ahead <;> rfl

theorem lookUp_rename (taper : α) {i i' : Nat} {ahead ahead' : List Command}
    (hscan : MarkedRun.scan i' ahead' = (MarkedRun.scan i ahead).map (MarkedRun.rename f)) :
    (t.rename f).lookUp taper i' ahead' = (t.lookUp taper i ahead).rename f := by
  unfold lookUp
  rw [rename_needsScan, begin_rename f taper hscan]
  split <;> rfl

end TaperRun

end

/-! ## The look-ahead past an insertion -/

namespace MarkedRun

/-- The look-ahead reads over `extra` as if it were not there. -/
def ReadsOver (extra : List Command) : Prop :=
  ∀ depth segments index rest,
    scanFrom depth segments index (extra ++ rest) =
      scanFrom depth segments (index + extra.length) rest

variable {place depth segments i : Nat} {extra : List Command}

theorem scanFrom_behind (count : Nat) (hplace : place ≤ i) (rest : List Command) :
    scanFrom depth segments (i + count) rest =
      (scanFrom depth segments i rest).map (rename (moved place count)) := by
  induction rest generalizing depth segments i with
  | nil => rfl
  | cons c rest ih =>
      have hnext : place ≤ i + 1 := Nat.le_succ_of_le hplace
      cases c with
      | pop =>
          cases depth with
          | zero => rfl
          | succ outer =>
              simp only [scanFrom, Nat.add_right_comm i count 1]
              exact ih hnext
      | taperMark =>
          simp only [scanFrom, Nat.add_right_comm i count 1, ih hnext]
          split
          · split
            · rfl
            · simp [rename, moved_of_le hplace]
          · rfl
      | _ =>
          simp only [scanFrom, Nat.add_right_comm i count 1]
          exact ih hnext

theorem ReadsOver.scanFrom_before (hextra : ReadsOver extra) (front behind : List Command)
    (hplace : i + front.length = place) :
    scanFrom depth segments i (front ++ (extra ++ behind)) =
      (scanFrom depth segments i (front ++ behind)).map
        (rename (moved place extra.length)) := by
  induction front generalizing depth segments i with
  | nil =>
      rw [List.length_nil, Nat.add_zero] at hplace
      rw [List.nil_append, List.nil_append, hextra]
      exact scanFrom_behind extra.length hplace.ge behind
  | cons c front ih =>
      rw [List.length_cons] at hplace
      have hnext : i + 1 + front.length = place := by omega
      rw [List.cons_append, List.cons_append]
      cases c with
      | pop =>
          cases depth with
          | zero => rfl
          | succ outer => exact ih hnext
      | taperMark =>
          simp only [scanFrom, ih hnext]
          split
          · split
            · rfl
            · simp [rename, moved_of_lt (show i < place by omega)]
          · rfl
      | _ => exact ih hnext

end MarkedRun

variable {α β γ σ τ : Type}

/-! ## Visits that correspond -/

/-- The two visits obey the same command, one in a word and one in the word with `extra` inserted
at `place`. -/
inductive Visit.Corresponds (extra : List Command) (place : Nat) :
    Visit α β σ → Visit α γ τ → Prop where
  | before {i : Nat} {c : Command} {front behind : List Command} {w : Walk α β σ}
    {w' : Walk α γ τ} (hplace : i + 1 + front.length = place) :
    Corresponds extra place ⟨i, c, front ++ behind, w⟩ ⟨i, c, front ++ (extra ++ behind), w'⟩
  | behind {i : Nat} {c : Command} {rest : List Command} {w : Walk α β σ} {w' : Walk α γ τ}
    (hplace : place ≤ i) :
    Corresponds extra place ⟨i, c, rest, w⟩ ⟨i + extra.length, c, rest, w'⟩

/-- The walks stand alike, but for the positions of the marks that are noted. -/
structure Walk.StandsLike (f : Nat → Nat) (w : Walk α β σ) (w' : Walk α γ τ) : Prop where
  turtle : w'.turtle = w.turtle.rename f
  stack : w'.stack = w.stack.map (Turtle.rename f)

namespace Visit

variable [Scalar α]

theorem after_turtle (S : Setting α β σ) (v : Visit α β σ) :
    (v.after S).turtle =
      match v.command with
      | .forward =>
        { v.walk.turtle with
          position := (v.segment S).stop, width := (v.segment S).width
          taper := (v.taperRun S).afterSegment, anchor := (v.answer S).2 }
      | .turn axis positive =>
        let angle := jittered S.habit.angle S.habit.variance (S.source.next v.walk.source).1
        v.walk.turtle.rotate axis.direction (if positive then angle else -angle)
      | .turnAround => v.walk.turtle.rotate Vec3.unitZ Scalar.pi
      | .taperMark =>
        { v.walk.turtle with
          width := if v.walk.turtle.taper.endsAt v.index then v.walk.turtle.width
            else v.walk.turtle.width * S.habit.taper
          taper := if v.walk.turtle.taper.endsAt v.index then TaperRun.inactive
            else v.walk.turtle.taper }
      | .push => { v.walk.turtle with taper := TaperRun.inactive }
      | .pop =>
        v.walk.stack.headD
          { v.walk.turtle with taper := { v.walk.turtle.taper with unmarked := false } }
      | _ => v.walk.turtle := by
  cases hcommand : v.command <;>
    simp [after, hcommand, Walk.step, Walk.sprout_eq, Walk.mark_eq, Walk.pop_eq, Walk.draw,
      Walk.turn, Walk.turnAround, Walk.push, segment, taperRun, ahead, answer, origin]

namespace Corresponds

variable {S : Setting α β σ} {S' : Setting α γ τ} {extra : List Command} {place : Nat}
  {v : Visit α β σ} {v' : Visit α γ τ}

omit [Scalar α] in
theorem command (h : Corresponds extra place v v') : v'.command = v.command := by
  cases h <;> rfl

omit [Scalar α] in
theorem index (h : Corresponds extra place v v') :
    v'.index = moved place extra.length v.index := by
  cases h with
  | @before i _ front _ _ _ hplace =>
      have hlt : i < place := by omega
      exact (moved_of_lt hlt).symm
  | behind hplace => exact (moved_of_le hplace).symm

omit [Scalar α] in
theorem scan (h : Corresponds extra place v v') (hextra : MarkedRun.ReadsOver extra) :
    MarkedRun.scan v'.index v'.ahead =
      (MarkedRun.scan v.index v.ahead).map
        (MarkedRun.rename (moved place extra.length)) := by
  cases h with
  | @before i c front behind _ _ hplace =>
      have hlength : i + (c :: front).length = place := by
        rw [List.length_cons]
        omega
      exact hextra.scanFrom_before (c :: front) behind hlength
  | behind hplace => exact MarkedRun.scanFrom_behind extra.length hplace _

variable (h : Corresponds extra place v v') (hextra : MarkedRun.ReadsOver extra)
  (hwalk : v.walk.StandsLike (moved place extra.length) v'.walk) (hhabit : S'.habit = S.habit)

include h hextra hwalk hhabit

theorem taperRun :
    v'.taperRun S' = (v.taperRun S).rename (moved place extra.length) := by
  unfold Visit.taperRun
  rw [hwalk.turtle, hhabit]
  exact TaperRun.lookUp_rename _ _ _ (h.scan hextra)

theorem segment : v'.segment S' = v.segment S := by
  unfold Visit.segment
  rw [h.taperRun hextra hwalk hhabit, hwalk.turtle]
  rfl

/-- What the two walks do to the turtle and the open branches is the same, as long as the builders
and the sources of chance answer alike. -/
theorem after_standsLike
    (hanchor : v.command = .forward → (v'.answer S').2 = (v.answer S).2)
    (hsample : (S'.source.next v'.walk.source).1 = (S.source.next v.walk.source).1) :
    (v.after S).StandsLike (moved place extra.length) (v'.after S') := by
  have hrun : v'.taperRun S' = (v.taperRun S).rename (moved place extra.length) :=
    h.taperRun hextra hwalk hhabit
  have hsegment : v'.segment S' = v.segment S := h.segment hextra hwalk hhabit
  constructor
  · rw [after_turtle, after_turtle, h.command]
    cases hcommand : v.command with
    | forward =>
        simp only [hwalk.turtle, hsegment, hrun, hanchor hcommand, Turtle.rename,
          TaperRun.rename_afterSegment]
    | taperMark =>
        have hends : (v.walk.turtle.taper.rename (moved place extra.length)).endsAt v'.index =
            v.walk.turtle.taper.endsAt v.index := by
          rw [h.index]
          exact TaperRun.rename_endsAt _ (moved_injective _ _) _
        simp only [hwalk.turtle, hhabit, Turtle.rename, hends]
        split <;> rfl
    | pop =>
        simp only [hwalk.stack, hwalk.turtle]
        cases v.walk.stack <;> rfl
    | turn axis positive =>
        simp only [hwalk.turtle, hhabit, hsample]
        rfl
    | push =>
        simp only [hwalk.turtle]
        rfl
    | turnAround =>
        simp only [hwalk.turtle]
        rfl
    | _ => exact hwalk.turtle
  · rw [after_stack, after_stack, h.command]
    cases v.command with
    | push => simp only [hwalk.stack, hwalk.turtle, List.map_cons]
    | pop => simp only [hwalk.stack, List.map_tail]
    | _ => exact hwalk.stack

end Corresponds

end Visit

/-! ## Courses that correspond -/

def Visit.isOutside (place count : Nat) (v : Visit α β σ) : Bool :=
  v.index < place || place + count ≤ v.index

namespace Setting

def withCommands (S : Setting α β σ) (commands : List Command) : Setting α β σ :=
  { S with commands }

/-- The walk over the symbols of a word. -/
def withWord (S : Setting α β σ) (word : Word) : Setting α β σ :=
  S.withCommands (Command.ofWord word)

variable [Scalar α]

/-- From position `i` on the walk gets over `word`, and then goes on from a walk with `P`. -/
def GetsOver (S : Setting α β σ) (word : List Command) (i : Nat) (rest : List Command)
    (w : Walk α β σ) (P : Walk α β σ → Prop) : Prop :=
  ∃ passed w',
    S.courseFrom i (word ++ rest) w = passed ++ S.courseFrom (i + word.length) rest w' ∧
      (∀ v ∈ passed, i ≤ v.index ∧ v.index < i + word.length) ∧ P w'

/-- The relation `R` holds between the walks of the two settings wherever they correspond, and the
walk in the longer word keeps it while it is in the inserted stretch. -/
structure GoesAlong (S : Setting α β σ) (S' : Setting α γ τ) (extra : List Command)
    (place : Nat) (R : Walk α β σ → Walk α γ τ → Prop) : Prop where
  step : ∀ {v : Visit α β σ} {v' : Visit α γ τ}, v.Corresponds extra place v' →
    R v.walk v'.walk → v'.ends S' = v.ends S ∧ R (v.after S) (v'.after S')
  pass : ∀ {w : Walk α β σ} {w' : Walk α γ τ} (rest : List Command), R w w' →
    S'.GetsOver extra place rest w' (R w)

variable {S : Setting α β σ} {S' : Setting α γ τ} {extra front behind rest : List Command}
  {place i : Nat} {w : Walk α β σ} {w' : Walk α γ τ}

theorem courseFrom_cons (c : Command) :
    S.courseFrom i (c :: rest) w =
      ⟨i, c, rest, w⟩ ::
        if Visit.ends S ⟨i, c, rest, w⟩ then []
        else S.courseFrom (i + 1) rest (Visit.after S ⟨i, c, rest, w⟩) := rfl

theorem le_index_of_mem_courseFrom {v : Visit α β σ} (hv : v ∈ S.courseFrom i rest w) :
    i ≤ v.index := by
  induction rest generalizing i w with
  | nil => simp [courseFrom] at hv
  | cons c rest ih =>
      rw [courseFrom_cons, List.mem_cons] at hv
      rcases hv with rfl | hv
      · exact le_refl _
      · split at hv
        · simp at hv
        · exact Nat.le_of_succ_le (ih hv)

namespace GetsOver

variable {word word' : List Command} {P Q : Walk α β σ → Prop}

theorem nil (hw : P w) : S.GetsOver [] i rest w P := ⟨[], w, rfl, by simp, hw⟩

theorem mono (h : S.GetsOver word i rest w P) (himp : ∀ w, P w → Q w) :
    S.GetsOver word i rest w Q := by
  obtain ⟨passed, w', hcourse, hindex, hw'⟩ := h
  exact ⟨passed, w', hcourse, hindex, himp w' hw'⟩

theorem cons {c : Command} (hgoes : Visit.ends S ⟨i, c, word ++ rest, w⟩ = false)
    (h : S.GetsOver word (i + 1) rest (Visit.after S ⟨i, c, word ++ rest, w⟩) P) :
    S.GetsOver (c :: word) i rest w P := by
  obtain ⟨passed, w', hcourse, hindex, hw'⟩ := h
  have hlength : i + (c :: word).length = i + 1 + word.length := by
    rw [List.length_cons]
    omega
  refine ⟨⟨i, c, word ++ rest, w⟩ :: passed, w', ?_, ?_, hw'⟩
  · rw [List.cons_append, courseFrom_cons, hgoes, if_neg Bool.false_ne_true, hcourse, hlength,
      List.cons_append]
  · intro v hv
    rw [hlength]
    rcases List.mem_cons.mp hv with rfl | hv
    · simp only
      omega
    · have := hindex v hv
      omega

theorem append
    (h : S.GetsOver word i (word' ++ rest) w
      (fun w' => S.GetsOver word' (i + word.length) rest w' P)) :
    S.GetsOver (word ++ word') i rest w P := by
  obtain ⟨passed, w', hcourse, hindex, passed', w'', hcourse', hindex', hw''⟩ := h
  have hlength : i + (word ++ word').length = i + word.length + word'.length := by
    rw [List.length_append]
    omega
  refine ⟨passed ++ passed', w'', ?_, ?_, hw''⟩
  · rw [List.append_assoc, hcourse, hcourse', hlength, List.append_assoc]
  · intro v hv
    rw [hlength]
    rcases List.mem_append.mp hv with hv | hv
    · have := hindex v hv
      omega
    · have := hindex' v hv
      omega

end GetsOver

theorem filterMap_eq_of_forall₂ {ι κ δ : Type} {R : ι → κ → Prop} {l : List ι} {l' : List κ}
    (h : List.Forall₂ R l l') {part : ι → Option δ} {part' : κ → Option δ}
    (hpart : ∀ a b, R a b → part' b = part a) : l'.filterMap part' = l.filterMap part := by
  induction h with
  | nil => rfl
  | cons hab _ ih => rw [List.filterMap_cons, List.filterMap_cons, hpart _ _ hab, ih]

namespace GoesAlong

variable {R : Walk α β σ → Walk α γ τ → Prop}

theorem courseFrom_behind (h : GoesAlong S S' extra place R) (hplace : place ≤ i)
    (rest : List Command) (hwalk : R w w') :
    List.Forall₂ (fun v v' => v.Corresponds extra place v' ∧ R v.walk v'.walk)
      (S.courseFrom i rest w) (S'.courseFrom (i + extra.length) rest w') := by
  induction rest generalizing i w w' with
  | nil => exact .nil
  | cons c rest ih =>
      have hplaces : Visit.Corresponds extra place (⟨i, c, rest, w⟩ : Visit α β σ)
          (⟨i + extra.length, c, rest, w'⟩ : Visit α γ τ) := .behind hplace
      obtain ⟨hends, hafter⟩ := h.step hplaces hwalk
      rw [courseFrom_cons, courseFrom_cons, hends]
      refine .cons ⟨hplaces, hwalk⟩ ?_
      split
      · exact .nil
      · rw [Nat.add_right_comm]
        exact ih (Nat.le_succ_of_le hplace) hafter

theorem courseFrom_before (h : GoesAlong S S' extra place R) (hplace : i + front.length = place)
    (behind : List Command) (hwalk : R w w') :
    List.Forall₂ (fun v v' => v.Corresponds extra place v' ∧ R v.walk v'.walk)
      (S.courseFrom i (front ++ behind) w)
      ((S'.courseFrom i (front ++ (extra ++ behind)) w').filter
        (Visit.isOutside place extra.length)) := by
  induction front generalizing i w w' with
  | nil =>
      rw [List.length_nil, Nat.add_zero] at hplace
      subst i
      -- the stretch comes next: its visits are left out, and no others are
      obtain ⟨passed, w'', hcourse, hinside, hwalk'⟩ := h.pass behind hwalk
      have hnone : passed.filter (Visit.isOutside place extra.length) = [] := by
        rw [List.filter_eq_nil_iff]
        intro v hv
        have := hinside v hv
        simp only [Visit.isOutside, Bool.or_eq_true, decide_eq_true_eq]
        omega
      have hall : (S'.courseFrom (place + extra.length) behind w'').filter
          (Visit.isOutside place extra.length) =
            S'.courseFrom (place + extra.length) behind w'' := by
        rw [List.filter_eq_self]
        intro v hv
        have := le_index_of_mem_courseFrom hv
        simp only [Visit.isOutside, Bool.or_eq_true, decide_eq_true_eq]
        omega
      rw [List.nil_append, List.nil_append, hcourse, List.filter_append, hnone, hall,
        List.nil_append]
      exact h.courseFrom_behind (le_refl _) behind hwalk'
  | cons c front ih =>
      rw [List.length_cons] at hplace
      have hplaces : Visit.Corresponds extra place (⟨i, c, front ++ behind, w⟩ : Visit α β σ)
          (⟨i, c, front ++ (extra ++ behind), w'⟩ : Visit α γ τ) := .before (by omega)
      obtain ⟨hends, hafter⟩ := h.step hplaces hwalk
      have houtside : Visit.isOutside place extra.length
          (⟨i, c, front ++ (extra ++ behind), w'⟩ : Visit α γ τ) = true := by
        simp only [Visit.isOutside, Bool.or_eq_true, decide_eq_true_eq]
        omega
      rw [List.cons_append, List.cons_append, courseFrom_cons, courseFrom_cons, hends,
        List.filter_cons_of_pos houtside]
      refine .cons ⟨hplaces, hwalk⟩ ?_
      split
      · exact .nil
      · exact ih (by omega) hafter

/-- Whatever is told alike from corresponding visits is told alike from the two courses, when the
visits to the inserted stretch are left out. -/
theorem filterMap_course (h : GoesAlong S S' extra front.length R)
    (hcommands : S.commands = front ++ behind)
    (hcommands' : S'.commands = front ++ (extra ++ behind)) (hstart : R S.start S'.start)
    {δ : Type} {part : Visit α β σ → Option δ} {part' : Visit α γ τ → Option δ}
    (hpart : ∀ {v : Visit α β σ} {v' : Visit α γ τ}, v.Corresponds extra front.length v' →
      R v.walk v'.walk → part' v' = part v) :
    (S'.course.filter (Visit.isOutside front.length extra.length)).filterMap part' =
      S.course.filterMap part := by
  have hcourses := h.courseFrom_before (Nat.zero_add _) behind hstart
  rw [← hcommands, ← hcommands'] at hcourses
  exact filterMap_eq_of_forall₂ hcourses fun _ _ hvisits => hpart hvisits.1 hvisits.2

end GoesAlong

end Setting

end PlantGrowth
