import PlantGrowth.Grammar.RuleText
import PlantGrowth.Proofs.PlainText
import Mathlib.Data.Set.Card

/-!
# The format of rule texts

What a line says is told by its shape: two sides with the first `=` between them, of which the
left one is a single symbol.  A text says of a symbol what the last line for it says, so reading on
only ever puts newer rules in the place of older ones, and a line of any other shape can be left
out.
-/

namespace PlantGrowth

namespace Text

variable {c : Char} {left : List Char}

theorem cut_append (h : c ∉ left) (rest : List Char) :
    cut c (left ++ c :: rest) = (left, some rest) := by
  have hleft : ∀ x ∈ left, (x != c) = true := fun x hx => bne_iff_ne.mpr fun he => h (he ▸ hx)
  simp [cut, List.dropWhile_append_of_pos hleft, List.takeWhile_append_of_pos hleft]

theorem cut_of_not_mem (h : c ∉ left) : cut c left = (left, none) := by
  have hleft : ∀ x ∈ left, (x != c) = true := fun x hx => bne_iff_ne.mpr fun he => h (he ▸ hx)
  have hdrop : left.dropWhile (· != c) = [] := List.dropWhile_eq_nil_iff.mpr hleft
  have htake : left.takeWhile (· != c) = left := List.takeWhile_eq_self_iff.mpr hleft
  simp [cut, hdrop, htake]

end Text

open Text

namespace RuleLine

/-- The line is `left=right`, with anything behind a second `=`. -/
structure Sides (line left right : List Char) : Prop where
  shape : line = left ++ '=' :: right ∨ ∃ ignored, line = left ++ '=' :: (right ++ '=' :: ignored)
  left : '=' ∉ left
  right : '=' ∉ right

/-- The line gives the symbol a replacement. -/
def Gives (line : List Char) (symbol : Char) (replacement : Word) : Prop :=
  ∃ left right, Sides line left right ∧ TrimsTo left [symbol] ∧ TrimsTo right replacement ∧
    replacement ≠ []

/-- The lines give the symbol a replacement, and none of them takes it back later. -/
def LastGives (lines : List (List Char)) (symbol : Char) (replacement : Word) : Prop :=
  ∃ before line after, lines = before ++ line :: after ∧ Gives line symbol replacement ∧
    ∀ later ∈ after, ∀ other, ¬ Gives later symbol other

variable {line left right : List Char} {symbol : Char} {replacement : Word}

theorem Sides.cut (h : Sides line left right) :
    ∃ rest, Text.cut '=' line = (left, some rest) ∧ (Text.cut '=' rest).1 = right := by
  rcases h.shape with rfl | ⟨ignored, rfl⟩
  · exact ⟨right, cut_append h.left right, by rw [cut_of_not_mem h.right]⟩
  · exact ⟨_, cut_append h.left _, by rw [cut_append h.right]⟩

theorem sides_or_not_mem (line : List Char) :
    (∃ left right, Sides line left right) ∨ '=' ∉ line := by
  by_cases hmem : '=' ∈ line
  · obtain ⟨left, rest, rfl, hleft⟩ := List.eq_append_cons_of_mem hmem
    by_cases hmore : '=' ∈ rest
    · obtain ⟨right, ignored, rfl, hright⟩ := List.eq_append_cons_of_mem hmore
      exact Or.inl ⟨left, right, Or.inr ⟨ignored, rfl⟩, hleft, hright⟩
    · exact Or.inl ⟨left, rest, Or.inl rfl, hleft, hmore⟩
  · exact Or.inr hmem

theorem ofLine_of_not_mem (h : '=' ∉ line) : ofLine line = .skipped := by
  rw [ofLine, cut_of_not_mem h]

theorem ofLine_of_sides_eq_rule_iff (h : Sides line left right) :
    ofLine line = .rule symbol replacement ↔
      trim left = [symbol] ∧ trim right = replacement ∧ replacement ≠ [] := by
  obtain ⟨rest, hcut, hright⟩ := h.cut
  simp only [ofLine, hcut, hright]
  by_cases hnone : trim right = []
  · simp only [hnone, List.isEmpty_nil, if_true]
    grind
  · rw [if_neg (by simpa using hnone)]
    split <;> grind

/-- Of a line, its two sides without blanks are all that counts. -/
theorem ofLine_congr {other right' : List Char} (h : Sides line left right)
    (h' : Sides other left right') (htrim : trim right = trim right') :
    ofLine line = ofLine other := by
  obtain ⟨rest, hcut, hright⟩ := h.cut
  obtain ⟨rest', hcut', hright'⟩ := h'.cut
  simp only [ofLine, hcut, hcut', hright, hright', htrim]

theorem gives_iff : Gives line symbol replacement ↔ ofLine line = .rule symbol replacement := by
  constructor
  · rintro ⟨left, right, hsides, hleft, hright, hne⟩
    exact (ofLine_of_sides_eq_rule_iff hsides).mpr
      ⟨trimsTo_iff.mp hleft, trimsTo_iff.mp hright, hne⟩
  · intro hrule
    rcases sides_or_not_mem line with ⟨left, right, hsides⟩ | hnone
    · obtain ⟨hleft, hright, hne⟩ := (ofLine_of_sides_eq_rule_iff hsides).mp hrule
      exact ⟨left, right, hsides, trimsTo_iff.mpr hleft, trimsTo_iff.mpr hright, hne⟩
    · rw [ofLine_of_not_mem hnone] at hrule
      contradiction

/-- A carriage return at the end of a line is a blank like others. -/
theorem ofLine_append_return (line : List Char) : ofLine (line ++ ['\r']) = ofLine line := by
  rcases sides_or_not_mem line with ⟨left, right, hsides⟩ | hnone
  · rcases hsides.shape with rfl | ⟨ignored, rfl⟩
    · have hreturned : Sides (left ++ '=' :: right ++ ['\r']) left (right ++ ['\r']) :=
        ⟨Or.inl (by simp), hsides.left, by simpa using hsides.right⟩
      exact ofLine_congr hreturned hsides (trim_append_blank right (by decide))
    · have hreturned : Sides (left ++ '=' :: (right ++ '=' :: ignored) ++ ['\r']) left right :=
        ⟨Or.inr ⟨ignored ++ ['\r'], by simp⟩, hsides.left, hsides.right⟩
      exact ofLine_congr hreturned hsides rfl
  · have hreturned : '=' ∉ line ++ ['\r'] := by simpa using hnone
    rw [ofLine_of_not_mem hnone, ofLine_of_not_mem hreturned]

theorem ofLine_dropReturn (line : List Char) : ofLine (dropReturn line) = ofLine line := by
  by_cases hreturn : line.getLast? = some '\r'
  · obtain ⟨front, rfl⟩ := List.getLast?_eq_some_iff.mp hreturn
    rw [dropReturn_append_return, ofLine_append_return]
  · rw [dropReturn_eq_self hreturn]

/-- What the line gives the symbol, if it gives it anything. -/
def replacementOf? (symbol : Char) (line : List Char) : Option Word :=
  match ofLine line with
  | .rule other replacement => if symbol = other then some replacement else none
  | _ => none

theorem replacementOf?_eq_some_iff :
    replacementOf? symbol line = some replacement ↔ Gives line symbol replacement := by
  rw [gives_iff, replacementOf?]
  split
  · simp_all
    grind
  · simp_all

theorem replacementOf?_eq_none_iff :
    replacementOf? symbol line = none ↔ ∀ other, ¬ Gives line symbol other := by
  simp only [← replacementOf?_eq_some_iff, Option.eq_none_iff_forall_ne_some, ne_eq]

theorem lastGives_iff {lines : List (List Char)} :
    LastGives lines symbol replacement ↔
      lines.reverse.findSome? (replacementOf? symbol) = some replacement := by
  rw [List.findSome?_eq_some_iff]
  constructor
  · rintro ⟨before, line, after, rfl, hgives, hlast⟩
    refine ⟨after.reverse, line, before.reverse, by simp, replacementOf?_eq_some_iff.mpr hgives, ?_⟩
    intro later hlater
    exact replacementOf?_eq_none_iff.mpr (hlast later (List.mem_reverse.mp hlater))
  · rintro ⟨after, line, before, hreverse, hgives, hlast⟩
    refine ⟨before.reverse, line, after.reverse, ?_, replacementOf?_eq_some_iff.mp hgives, ?_⟩
    · rw [← List.reverse_reverse lines, hreverse]
      simp
    · intro later hlater
      exact replacementOf?_eq_none_iff.mp (hlast later (List.mem_reverse.mp hlater))

end RuleLine

open RuleLine

namespace Grammar

variable {g : Grammar} {symbol : Char} {replacement : Word} {line : List Char}

/-! ## Reading lines -/

theorem readLine_rule? (g : Grammar) (line : List Char) (symbol : Char) :
    (g.readLine line).rule? symbol = (replacementOf? symbol line).or (g.rule? symbol) := by
  cases hline : ofLine line with
  | rule other replacement =>
      simp only [readLine, replacementOf?, hline, rule?_withRule]
      split <;> rfl
  | _ => simp [readLine, replacementOf?, hline]

theorem rule?_foldl_readLine (g : Grammar) (lines : List (List Char)) (symbol : Char) :
    (lines.foldl readLine g).rule? symbol =
      (lines.reverse.findSome? (replacementOf? symbol)).or (g.rule? symbol) := by
  induction lines generalizing g with
  | nil => rfl
  | cons line lines ih =>
      rw [List.foldl_cons, ih, readLine_rule?, List.reverse_cons, List.findSome?_append,
        Option.or_assoc]
      simp

theorem start_foldl_readLine (g : Grammar) (lines : List (List Char)) :
    (lines.foldl readLine g).start = g.start := by
  induction lines generalizing g with
  | nil => rfl
  | cons line lines ih =>
      rw [List.foldl_cons, ih, readLine]
      split <;> rfl

theorem readLine_of_not_gives (h : ∀ symbol replacement, ¬ Gives line symbol replacement) :
    g.readLine line = g := by
  rw [readLine]
  split
  · rename_i hrule
    exact absurd (gives_iff.mpr hrule) (h _ _)
  · rfl

theorem readLine_nil (g : Grammar) : g.readLine [] = g := rfl

theorem readLine_dropReturn (g : Grammar) (line : List Char) :
    g.readLine (dropReturn line) = g.readLine line := by
  rw [readLine, ofLine_dropReturn]
  rfl

/-! ## Counting rules -/

/-- No symbol has two rules. -/
def Distinct (g : Grammar) : Prop := (g.rules.map Prod.fst).Nodup

theorem distinct_ofStart (start : Word) : (ofStart start).Distinct := List.nodup_nil

theorem Distinct.withRule (h : g.Distinct) (symbol : Char) (replacement : Word) :
    (g.withRule symbol replacement).Distinct := by
  have hfilter : (g.rules.filter (·.1 != symbol)).map Prod.fst =
      (g.rules.map Prod.fst).filter (· != symbol) := by
    rw [List.filter_map]
    rfl
  rw [Distinct, Grammar.withRule, List.map_cons, hfilter, List.nodup_cons]
  exact ⟨by simp, h.filter _⟩

theorem Distinct.foldl_readLine (h : g.Distinct) (lines : List (List Char)) :
    (lines.foldl readLine g).Distinct := by
  induction lines generalizing g with
  | nil => exact h
  | cons line lines ih =>
      apply ih
      rw [readLine]
      split
      · exact h.withRule _ _
      · exact h

theorem Distinct.ruleCount_eq (h : g.Distinct) :
    g.ruleCount = {symbol | (g.rule? symbol).isSome = true}.ncard := by
  have hset : {symbol | (g.rule? symbol).isSome = true} =
      ((g.rules.map Prod.fst).toFinset : Set Char) := by
    ext symbol
    simp [rule?, List.lookup_isSome_iff]
  rw [hset, Set.ncard_coe_finset, List.toFinset_card_of_nodup h, List.length_map]
  rfl

/-! ## Texts -/

/-- Before a line break a line is read as it is read at the end of a text. -/
theorem exists_lines_break {lineBreak : List Char} (hopen : '\n' ∉ line)
    (hbreak : lineBreak ∈ [['\n'], ['\r', '\n']]) (g : Grammar) (rest : List Char) :
    ∃ closed, Text.lines (line ++ (lineBreak ++ rest)) = closed :: Text.lines rest ∧
      g.readLine closed = g.readLine line := by
  rw [List.mem_pair] at hbreak
  rcases hbreak with rfl | rfl
  · exact ⟨_, lines_of_feed hopen rest, g.readLine_dropReturn line⟩
  · exact ⟨_, lines_of_returned hopen rest, rfl⟩

/-- What stands behind a line break is read on top of what stands before it. -/
theorem foldl_readLine_break {s lineBreak : List Char} {lines : List (List Char)}
    (hlines : InLines s lines) (hbreak : lineBreak ∈ [['\n'], ['\r', '\n']]) (g : Grammar)
    (rest : List Char) :
    (Text.lines (s ++ (lineBreak ++ rest))).foldl readLine g =
      (Text.lines rest).foldl readLine (lines.foldl readLine g) := by
  induction hlines generalizing g with
  | nil =>
      obtain ⟨closed, hsplit, hread⟩ := exists_lines_break List.not_mem_nil hbreak g rest
      rw [hsplit, List.foldl_cons, hread, readLine_nil, List.foldl_nil]
  | last _ hopen =>
      obtain ⟨closed, hsplit, hread⟩ := exists_lines_break hopen hbreak g rest
      rw [hsplit, List.foldl_cons, hread, List.foldl_cons, List.foldl_nil]
  | feed hopen hplain _ ih =>
      rw [List.append_assoc, List.cons_append, lines_of_feed hopen, dropReturn_eq_self hplain,
        List.foldl_cons, ih, List.foldl_cons]
  | returned hopen _ ih =>
      rw [List.append_assoc, List.cons_append, List.cons_append, lines_of_returned hopen,
        List.foldl_cons, ih, List.foldl_cons]

theorem ofText_eq {rules : String} {lines : List (List Char)} (h : InLines rules.toList lines)
    (start : String) : ofText start rules = lines.foldl readLine (ofStart start.toList) := by
  rw [ofText, ← h.eq_lines]

theorem ofText_rule? {rules : String} {lines : List (List Char)}
    (h : InLines rules.toList lines) (start : String) (symbol : Char) :
    (ofText start rules).rule? symbol = lines.reverse.findSome? (replacementOf? symbol) := by
  rw [ofText_eq h, rule?_foldl_readLine, rule?_ofStart, Option.or_none]

theorem ofText_break (start rules more : String) {lineBreak : String}
    (hbreak : lineBreak ∈ ["\n", "\r\n"]) (symbol : Char) :
    (ofText start (rules ++ lineBreak ++ more)).rule? symbol =
      ((ofText start more).rule? symbol).or ((ofText start rules).rule? symbol) := by
  have hchars : lineBreak.toList ∈ [['\n'], ['\r', '\n']] := by
    rw [List.mem_pair] at hbreak ⊢
    rcases hbreak with rfl | rfl
    · exact Or.inl rfl
    · exact Or.inr rfl
  have htext : (rules ++ lineBreak ++ more).toList =
      rules.toList ++ (lineBreak.toList ++ more.toList) := by simp
  have hjoined := foldl_readLine_break (inLines_lines rules.toList) hchars (ofStart start.toList)
    more.toList
  rw [ofText, htext, hjoined, rule?_foldl_readLine, ofText_rule? (inLines_lines more.toList)]
  rfl

/-- The symbols with a rule in a text are those that one of its lines is a rule for. -/
theorem ofText_ruleCount {rules : String} {lines : List (List Char)}
    (h : InLines rules.toList lines) (start : String) :
    (ofText start rules).ruleCount =
      {symbol | ∃ line ∈ lines, ∃ replacement, Gives line symbol replacement}.ncard := by
  have hdistinct : (ofText start rules).Distinct := by
    rw [ofText_eq h]
    exact (distinct_ofStart _).foldl_readLine lines
  have hgiven : ∀ symbol, ((ofText start rules).rule? symbol).isSome = true ↔
      ∃ line ∈ lines, ∃ replacement, Gives line symbol replacement := by
    intro symbol
    rw [ofText_rule? h, List.findSome?_isSome_iff]
    simp only [List.mem_reverse, Option.isSome_iff_exists, replacementOf?_eq_some_iff]
  rw [hdistinct.ruleCount_eq, Set.ext hgiven]

/-- Of the lines of a rule text, the last rule for each symbol counts and everything else is as
good as left out. -/
theorem ofText_reads_last_rules (start rules : String) {lines : List (List Char)}
    (hlines : InLines rules.toList lines) :
    (ofText start rules).start = start.toList ∧
      (∀ symbol replacement, (ofText start rules).rule? symbol = some replacement ↔
        LastGives lines symbol replacement) ∧
      (ofText start rules).ruleCount =
        {symbol | ∃ line ∈ lines, ∃ replacement, Gives line symbol replacement}.ncard ∧
      (∀ (others : String) (before line after : List _), lines = before ++ line :: after →
        (∀ symbol replacement, ¬ Gives line symbol replacement) →
          InLines others.toList (before ++ after) → ofText start others = ofText start rules) ∧
      ∀ (more : String), ∀ lineBreak ∈ ["\n", "\r\n"], ∀ symbol,
        (ofText start (rules ++ lineBreak ++ more)).rule? symbol =
          ((ofText start more).rule? symbol).or ((ofText start rules).rule? symbol) := by
  refine ⟨?_, ?_, ofText_ruleCount hlines start, ?_, ?_⟩
  · rw [ofText_eq hlines, start_foldl_readLine]
    rfl
  · intro symbol replacement
    rw [ofText_rule? hlines, lastGives_iff]
  · intro others before line after hsplit hnone hothers
    rw [ofText_eq hothers, ofText_eq hlines, hsplit, List.foldl_append, List.foldl_append,
      List.foldl_cons, readLine_of_not_gives hnone]
  · intro more lineBreak hbreak symbol
    exact ofText_break start rules more hbreak symbol

/-- Both kinds of line breaks, a rule that is replaced, and lines that are none. -/
def mixedRules : String := "A=B\r\n==X\n A = F=G\nAB=C\nA=\nX=[]"

theorem ofText_reads_last_rules_mixed :
    let lines := ["A=B", "==X", " A = F=G", "AB=C", "A=", "X=[]"].map String.toList
    InLines mixedRules.toList lines ∧
      (ofText "A" mixedRules).rule? 'A' = some ['F'] ∧ LastGives lines 'A' ['F'] ∧
      (ofText "A" mixedRules).ruleCount = 2 := by
  intro lines
  have hlines : InLines mixedRules.toList lines := inLines_lines mixedRules.toList
  obtain ⟨_, hrule, _, _, _⟩ := ofText_reads_last_rules "A" mixedRules hlines
  have hlast : (ofText "A" mixedRules).rule? 'A' = some ['F'] := by decide
  exact ⟨hlines, hlast, (hrule 'A' ['F']).mp hlast, by decide⟩

end Grammar

end PlantGrowth
