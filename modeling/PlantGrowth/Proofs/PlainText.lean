import PlantGrowth.Text.Blank
import Mathlib.Data.List.Basic
import Mathlib.Data.List.DropRight

/-!
# Blanks and lines of a text

What is left of a text without the blanks at its ends, and what its lines are, can be told without
going through the text: by what stands around the rest, and by the breaks that the lines are put
together with.  Either description fits one result only, which is the one that is computed.
-/

namespace PlantGrowth.Text

variable {s core before after line rest : List Char} {lines others : List (List Char)} {c : Char}

/-! ## Blanks -/

/-- `core` is what is left of `s` without the blanks at its two ends. -/
structure TrimsTo (s core : List Char) : Prop where
  split : ∃ before after, s = before ++ core ++ after ∧ (∀ c ∈ before, isBlank c = true) ∧
    ∀ c ∈ after, isBlank c = true
  first : ∀ c ∈ core.head?, isBlank c = false
  last : ∀ c ∈ core.getLast?, isBlank c = false

theorem trim_append (hbefore : ∀ c ∈ before, isBlank c = true)
    (hfirst : ∀ c ∈ core.head?, isBlank c = false) (hlast : ∀ c ∈ core.getLast?, isBlank c = false)
    (hafter : ∀ c ∈ after, isBlank c = true) :
    trim (before ++ core ++ after) = core := by
  have hreverse : core.reverse.dropWhile isBlank = core.reverse := by
    rw [List.dropWhile_eq_self_iff]
    intro hlength
    simpa [List.getElem_zero, List.head_reverse] using
      hlast _ (List.getLast_mem_getLast? (by simpa using List.ne_nil_of_length_pos hlength))
  have hfront : (core ++ after).dropWhile isBlank = if core = [] then [] else core ++ after := by
    cases core with
    | nil => simpa using hafter
    | cons c core => simp [hfirst c rfl]
  rw [trim, List.append_assoc, List.dropWhile_append_of_pos hbefore, hfront]
  split
  · simp [*]
  · rw [List.reverse_append, List.dropWhile_append_of_pos (by simpa using hafter), hreverse,
      List.reverse_reverse]

theorem trim_append_of_plain (hbefore : ∀ c ∈ before, isBlank c = true)
    (hplain : ∀ c ∈ core, isBlank c = false) (hafter : ∀ c ∈ after, isBlank c = true) :
    trim (before ++ core ++ after) = core :=
  trim_append hbefore (fun c hc => hplain c (List.mem_of_mem_head? hc))
    (fun c hc => hplain c (List.mem_of_mem_getLast? hc)) hafter

theorem dropWhile_eq_trim_append (s : List Char) :
    s.dropWhile isBlank = trim s ++ (s.dropWhile isBlank).rtakeWhile isBlank := by
  rw [trim, List.rtakeWhile, ← List.reverse_append, List.takeWhile_append_dropWhile,
    List.reverse_reverse]

theorem trimsTo_trim (s : List Char) : TrimsTo s (trim s) where
  split := by
    refine ⟨s.takeWhile isBlank, (s.dropWhile isBlank).rtakeWhile isBlank, ?_,
      fun _ => List.mem_takeWhile_imp, fun _ => List.mem_rtakeWhile_imp⟩
    rw [List.append_assoc, ← dropWhile_eq_trim_append, List.takeWhile_append_dropWhile]
  first := by
    intro c hc
    have hhead : (s.dropWhile isBlank).head? = some c := by
      rw [dropWhile_eq_trim_append, List.head?_append, hc, Option.some_or]
    have hnot := List.head?_dropWhile_not isBlank s
    rwa [hhead] at hnot
  last := by
    intro c hc
    obtain ⟨hne, rfl⟩ := List.mem_getLast?_eq_getLast hc
    exact Bool.eq_false_iff.mpr (List.rdropWhile_last_not isBlank (s.dropWhile isBlank) hne)

theorem trimsTo_iff : TrimsTo s core ↔ trim s = core := by
  constructor
  · rintro ⟨⟨before, after, rfl, hbefore, hafter⟩, hfirst, hlast⟩
    exact trim_append hbefore hfirst hlast hafter
  · rintro rfl
    exact trimsTo_trim s

theorem trim_append_blank (s : List Char) (h : isBlank c = true) : trim (s ++ [c]) = trim s := by
  obtain ⟨⟨before, after, hs, hbefore, hafter⟩, hfirst, hlast⟩ := trimsTo_trim s
  refine trimsTo_iff.mp ⟨⟨before, after ++ [c], ?_, hbefore, ?_⟩, hfirst, hlast⟩
  · rw [← List.append_assoc, ← hs]
  · simpa [or_imp, forall_and, h] using hafter

theorem trim_map {f : Char → Char} (h : ∀ c, isBlank (f c) = isBlank c) (s : List Char) :
    trim (s.map f) = (trim s).map f := by
  have hcomp : isBlank ∘ f = isBlank := funext h
  simp only [trim, List.dropWhile_map, ← List.map_reverse, hcomp]

/-! ## Case of letters -/

/-- What holds of every ASCII character and of all others. -/
theorem ascii_cases {P : Char → Prop} (hascii : ∀ k < 128, P (Char.ofNat k))
    (hothers : ∀ c : Char, 128 ≤ c.toNat → P c) (c : Char) : P c := by
  rcases Nat.lt_or_ge c.toNat 128 with hlt | hge
  · rw [← Char.ofNat_toNat c]
    exact hascii c.toNat hlt
  · exact hothers c hge

theorem toLower_of_ge (h : 128 ≤ c.toNat) : c.toLower = c := by
  refine dif_neg ?_
  rintro ⟨-, hle⟩
  have hle' : c.toNat ≤ 90 := UInt32.le_iff_toNat_le.mp hle
  omega

theorem toLower_of_isBlank : isBlank c = true → c.toLower = c := by
  refine ascii_cases (P := fun c => isBlank c = true → c.toLower = c) ?_ ?_ c
  · decide +kernel
  · intro c hc _
    exact toLower_of_ge hc

theorem isBlank_toLower (c : Char) : isBlank c.toLower = isBlank c := by
  refine ascii_cases (P := fun c => isBlank c.toLower = isBlank c) ?_ ?_ c
  · decide +kernel
  · intro c hc
    rw [toLower_of_ge hc]

/-! ## Lines -/

/-- The lines of a text.  Each is closed by a line feed or by a carriage return and a line feed,
but the last one may as well be open. -/
inductive InLines : List Char → List (List Char) → Prop
  | nil : InLines [] []
  | last {line : List Char} : line ≠ [] → '\n' ∉ line → InLines line [line]
  | feed {line rest : List Char} {lines : List (List Char)} :
      '\n' ∉ line → line.getLast? ≠ some '\r' → InLines rest lines →
        InLines (line ++ '\n' :: rest) (line :: lines)
  | returned {line rest : List Char} {lines : List (List Char)} :
      '\n' ∉ line → InLines rest lines →
        InLines (line ++ '\r' :: '\n' :: rest) (line :: lines)

theorem linesFrom_append (h : '\n' ∉ line) (front rest : List Char) :
    linesFrom front (line ++ rest) = linesFrom (line.reverse ++ front) rest := by
  induction line generalizing front with
  | nil => rfl
  | cons c line ih =>
      rw [List.mem_cons, not_or] at h
      have hc : (c == '\n') = false := beq_eq_false_iff_ne.mpr (Ne.symm h.1)
      simp only [List.cons_append, linesFrom, hc, ih h.2, List.reverse_cons, List.append_assoc,
        Bool.false_eq_true, if_false, List.nil_append]

theorem lines_of_feed (h : '\n' ∉ line) (rest : List Char) :
    Text.lines (line ++ '\n' :: rest) = dropReturn line :: Text.lines rest := by
  rw [Text.lines, linesFrom_append h]
  simp [linesFrom, Text.lines]

theorem lines_of_not_mem (h : '\n' ∉ line) (hline : line ≠ []) : Text.lines line = [line] := by
  have hrun := linesFrom_append h [] []
  rw [List.append_nil] at hrun
  rw [Text.lines, hrun]
  simp [linesFrom, hline]

theorem dropReturn_append_return (line : List Char) : dropReturn (line ++ ['\r']) = line := by
  simp [dropReturn]

theorem dropReturn_eq_self (h : line.getLast? ≠ some '\r') : dropReturn line = line := by
  simp [dropReturn, h]

theorem lines_of_returned (h : '\n' ∉ line) (rest : List Char) :
    Text.lines (line ++ '\r' :: '\n' :: rest) = line :: Text.lines rest := by
  have hreturn : '\n' ∉ line ++ ['\r'] := by simp [h]
  have hfeed := lines_of_feed hreturn rest
  rwa [dropReturn_append_return, List.append_assoc] at hfeed

theorem InLines.eq_lines (h : InLines s lines) : lines = Text.lines s := by
  induction h with
  | nil => rfl
  | last hline hopen => rw [lines_of_not_mem hopen hline]
  | feed hopen hplain _ ih => rw [lines_of_feed hopen, dropReturn_eq_self hplain, ih]
  | returned hopen _ ih => rw [lines_of_returned hopen, ih]

theorem inLines_lines (s : List Char) : InLines s (Text.lines s) := by
  induction hn : s.length using Nat.strongRecOn generalizing s with
  | ind n ih =>
      by_cases hfeed : '\n' ∈ s
      · obtain ⟨line, rest, rfl, hopen⟩ := List.eq_append_cons_of_mem hfeed
        have hrest := ih rest.length (by simp [← hn]; omega) rest rfl
        by_cases hreturn : line.getLast? = some '\r'
        · obtain ⟨front, rfl⟩ := List.getLast?_eq_some_iff.mp hreturn
          have hfront : '\n' ∉ front := fun h => hopen (List.mem_append_left _ h)
          rw [lines_of_feed hopen, dropReturn_append_return, List.append_assoc]
          exact .returned hfront hrest
        · rw [lines_of_feed hopen, dropReturn_eq_self hreturn]
          exact .feed hopen hreturn hrest
      · cases s with
        | nil => exact .nil
        | cons c s =>
            have hline : c :: s ≠ [] := List.cons_ne_nil c s
            rw [lines_of_not_mem hfeed hline]
            exact .last hline hfeed

end PlantGrowth.Text
