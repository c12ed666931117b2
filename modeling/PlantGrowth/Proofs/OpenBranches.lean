import PlantGrowth.Proofs.StackDepth
import Mathlib.Order.Bounds.Image

/-!
# How many branches are open

What has been read of a word decides how many branches are open, and brackets can be counted on its
symbols: the balance of a beginning is its opening brackets less its closing ones, and as many
branches are open as the balance is above the least one so far.  So a bracket that closes nothing
lowers both and is forgotten.
-/

namespace PlantGrowth

open Brackets

/-- The opening brackets of a word less its closing ones. -/
def bracketBalance (p : Word) : Int := p.count '[' - p.count ']'

/-- The least balance of a beginning of the word, which may be empty or all of it. -/
def leastBalance (p : Word) : Int := (p.inits.map bracketBalance).min?.getD 0

/-- The branches that are open behind `p`. -/
def openBranches (p : Word) : Int := bracketBalance p - leastBalance p

theorem leastBalance_isLeast (p : Word) :
    IsLeast (bracketBalance '' {q | q <+: p}) (leastBalance p) := by
  cases hleast : (p.inits.map bracketBalance).min? with
  | none =>
      have hempty := List.map_eq_nil_iff.mp (List.min?_eq_none_iff.mp hleast)
      have hbeginning := (List.mem_inits p p).mpr List.prefix_rfl
      rw [hempty] at hbeginning
      contradiction
  | some least =>
      obtain ⟨hmem, hle⟩ := List.min?_eq_some_iff.mp hleast
      rw [leastBalance, hleast, Option.getD_some]
      constructor
      · obtain ⟨q, hq, rfl⟩ := List.mem_map.mp hmem
        exact ⟨q, (List.mem_inits q p).mp hq, rfl⟩
      · rintro _ ⟨q, hq, rfl⟩
        exact hle _ (List.mem_map_of_mem ((List.mem_inits q p).mpr hq))

/-! ## One word behind another -/

theorem bracketBalance_append (p q : Word) :
    bracketBalance (p ++ q) = bracketBalance p + bracketBalance q := by
  simp only [bracketBalance, List.count_append]
  omega

theorem beginnings_append (p q : Word) :
    {r | r <+: p ++ q} = {r | r <+: p} ∪ (p ++ ·) '' {r | r <+: q} := by
  ext r
  simp only [Set.mem_ofPred_eq, Set.mem_union, Set.mem_image]
  constructor
  · intro hr
    rcases List.prefix_or_prefix_of_prefix hr (List.prefix_append p q) with hshort | hlong
    · exact .inl hshort
    · obtain ⟨r, rfl⟩ := hlong
      exact .inr ⟨r, (List.prefix_append_right_inj p).mp hr, rfl⟩
  · rintro (hr | ⟨r, hr, rfl⟩)
    · exact hr.trans (List.prefix_append p q)
    · exact (List.prefix_append_right_inj p).mpr hr

theorem leastBalance_append (p q : Word) :
    leastBalance (p ++ q) = min (leastBalance p) (bracketBalance p + leastBalance q) := by
  have hbehind : bracketBalance '' ((p ++ ·) '' {r | r <+: q}) =
      (bracketBalance p + ·) '' (bracketBalance '' {r | r <+: q}) := by
    simp only [Set.image_image, bracketBalance_append]
  have hleast := leastBalance_isLeast (p ++ q)
  -- a beginning of `p ++ q` is one of `p`, or all of `p` and one of `q`
  rw [beginnings_append, Set.image_union, hbehind] at hleast
  have hmono : Monotone (bracketBalance p + ·) := fun _ _ hle => Int.add_le_add_left hle _
  exact hleast.unique
    ((leastBalance_isLeast p).union (hmono.map_isLeast (leastBalance_isLeast q)))

/-- What is open behind `p` stays open as far as `q` leaves it open, and `q` opens its own. -/
theorem openBranches_append (p q : Word) :
    openBranches (p ++ q) = max (openBranches p + bracketBalance q) (openBranches q) := by
  simp only [openBranches, bracketBalance_append, leastBalance_append]
  omega

theorem openBranches_nonneg (p : Word) : 0 ≤ openBranches p := by
  have hle : leastBalance p ≤ bracketBalance p :=
    (leastBalance_isLeast p).2 ⟨p, List.prefix_rfl, rfl⟩
  unfold openBranches
  omega

theorem bracketBalance_replicate (n : Nat) : bracketBalance (List.replicate n ']') = -n := by
  simp [bracketBalance, List.count_replicate]

theorem openBranches_replicate (n : Nat) : openBranches (List.replicate n ']') = 0 := by
  induction n with
  | zero => rfl
  | succ n ih =>
      rw [List.replicate_succ', openBranches_append, ih]
      rfl

/-- Of the closing brackets behind `p` only as many count as there are open branches. -/
theorem openBranches_closing (p : Word) (n : Nat) (q : Word) :
    openBranches (p ++ List.replicate n ']' ++ q) =
      openBranches (p ++ List.replicate (min n (openBranches p).toNat) ']' ++ q) := by
  have hopen := openBranches_nonneg p
  have hclosing (m : Nat) :
      openBranches (p ++ List.replicate m ']') = max (openBranches p - m) 0 := by
    rw [openBranches_append, bracketBalance_replicate, openBranches_replicate, Int.sub_eq_add_neg]
  have hcount : openBranches (p ++ List.replicate n ']') =
      openBranches (p ++ List.replicate (min n (openBranches p).toNat) ']') := by
    rw [hclosing, hclosing]
    omega
  rw [openBranches_append _ q, openBranches_append _ q, hcount]

/-! ## Symbols and commands -/

theorem bracketBalance_cons (symbol : Char) (p : Word) :
    bracketBalance (symbol :: p) = (Command.ofSymbol symbol).rise + bracketBalance p := by
  simp only [bracketBalance, List.count_cons]
  by_cases hpush : symbol = '['
  · subst hpush
    simp [Command.ofSymbol, Command.rise]
    omega
  by_cases hpop : symbol = ']'
  · subst hpop
    simp [Command.ofSymbol, Command.rise]
    omega
  · simp [Command.rise_ofSymbol_eq_zero hpush hpop, hpush, hpop]

theorem sum_rise_ofWord (p : Word) :
    ((Command.ofWord p).map Command.rise).sum = bracketBalance p := by
  induction p with
  | nil => rfl
  | cons symbol p ih =>
      rw [bracketBalance_cons, ← ih]
      rfl

theorem height_ofWord (word : Word) (i : Nat) :
    height (Command.ofWord word) i = bracketBalance (word.take i) := by
  rw [height, ← sum_rise_ofWord]
  simp only [Command.ofWord, List.map_take]

theorem image_Iic_take (f : Word → Int) (word : Word) (i : Nat) :
    (fun k => f (word.take k)) '' Set.Iic i = f '' {p | p <+: word.take i} := by
  apply Set.Subset.antisymm
  · rintro _ ⟨k, hk, rfl⟩
    exact ⟨word.take k, List.take_prefix_take_left hk, rfl⟩
  · rintro _ ⟨p, hp, rfl⟩
    obtain ⟨hword, hlength⟩ := List.prefix_take_iff.mp hp
    refine ⟨p.length, hlength, ?_⟩
    simp only [← List.prefix_iff_eq_take.mp hword]

theorem lowest_ofWord (word : Word) (i : Nat) :
    lowest (Command.ofWord word) i = leastBalance (word.take i) := by
  have hlowest := lowest_isLeast (Command.ofWord word) i
  rw [funext (height_ofWord word), image_Iic_take] at hlowest
  exact hlowest.unique (leastBalance_isLeast _)

theorem openBranches_take (word : Word) (i : Nat) :
    openBranches (word.take i) =
      height (Command.ofWord word) i - lowest (Command.ofWord word) i := by
  rw [openBranches, ← height_ofWord, ← lowest_ofWord]

/-! ## The stack of a walk -/

namespace Setting

variable {α β σ : Type} [Scalar α] (S : Setting α β σ) (word : Word)

/-- How deep the stack is at the start and behind every command that was obeyed. -/
def stackDepths : List Nat :=
  S.start.stack.length :: S.course.map fun v => (v.after S).stack.length

/-- The symbols that were obeyed. -/
def wordRead : Word := word.take (S.withWord word).course.length

theorem length_wordRead : (S.wordRead word).length = (S.withWord word).course.length := by
  have htotal := length_course_add_skipped (S := S.withWord word)
  have hcommands : (S.withWord word).commands.length = word.length := List.length_map _
  rw [wordRead, List.length_take, min_eq_left (by omega)]

theorem stackDepths_withWord :
    (S.withWord word).stackDepths.map Nat.cast = (S.wordRead word).inits.map openBranches := by
  apply List.ext_getElem
  · simp [stackDepths, length_wordRead]
  intro k hk hread
  rw [List.getElem_map, List.getElem_map, List.getElem_inits]
  cases k with
  | zero => rfl
  | succ k =>
      have hlt : k < (S.withWord word).course.length := by
        simpa [stackDepths] using hk
      have hv := List.getElem_mem hlt
      have hdeep := deepAt_after hv (deepAt_of_mem hv)
      rw [index_eq_of_getElem? (List.getElem?_eq_getElem hlt)] at hdeep
      rw [wordRead, List.take_take, min_eq_left hlt, openBranches_take]
      simp only [stackDepths, List.getElem_cons_succ, List.getElem_map]
      exact hdeep

theorem tour_maxDepth_withWord :
    IsGreatest (openBranches '' {p | p <+: S.wordRead word})
      ((S.withWord word).tour.walk.maxDepth : Int) := by
  rw [wordRead, ← image_Iic_take, funext (openBranches_take word)]
  exact (S.withWord word).tour_maxDepth_isGreatest

/-- As many branches are open behind a beginning of a word as its balance is above the least
balance so far.  The stack of a walk is as deep behind every beginning that was read, it was never
deeper than behind the deepest of them, and brackets that close nothing could be left out. -/
theorem stack_depth_closed_form :
    (∀ p : Word, IsLeast (bracketBalance '' {q | q <+: p}) (leastBalance p)) ∧
      (S.withWord word).stackDepths.map Nat.cast = (S.wordRead word).inits.map openBranches ∧
      IsGreatest (openBranches '' {p | p <+: S.wordRead word})
        ((S.withWord word).tour.walk.maxDepth : Int) ∧
      ∀ (p : Word) (n : Nat) (q : Word),
        openBranches (p ++ List.replicate n ']' ++ q) =
          openBranches (p ++ List.replicate (min n (openBranches p).toNat) ']' ++ q) :=
  ⟨leastBalance_isLeast, S.stackDepths_withWord word, S.tour_maxDepth_withWord word,
    openBranches_closing⟩

example : openBranches "]]F[+]]F[L[".toList = 2 := by decide

end Setting

end PlantGrowth
