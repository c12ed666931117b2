/-!
# Grammars

A grammar is a start word and at most one replacement for each symbol.  One pass replaces all
symbols of a word at once, and a symbol without a rule stays.  Growing repeats passes until the
asked count is reached or the word has outgrown a cap; the word that outgrew it is kept.
-/

namespace PlantGrowth

abbrev Word := List Char

/-- A start word and its replacement rules, at most one a symbol. -/
structure Grammar where
  start : Word
  rules : List (Char × Word)
  deriving DecidableEq, Repr

namespace Grammar

def ofStart (start : Word) : Grammar := ⟨start, []⟩

/-- The replacement of a symbol, if it has one. -/
def rule? (g : Grammar) (symbol : Char) : Option Word := g.rules.lookup symbol

/-- The grammar with the rule for `symbol` set, in place of any it had. -/
def withRule (g : Grammar) (symbol : Char) (replacement : Word) : Grammar :=
  { g with rules := (symbol, replacement) :: g.rules.filter (·.1 != symbol) }

def ruleCount (g : Grammar) : Nat := g.rules.length

@[simp] theorem rule?_ofStart (start : Word) (symbol : Char) :
    (ofStart start).rule? symbol = none := rfl

@[simp] theorem rule?_withRule (g : Grammar) (symbol : Char) (replacement : Word) (c : Char) :
    (g.withRule symbol replacement).rule? c =
      if c = symbol then some replacement else g.rule? c := by
  simp only [rule?, withRule, List.lookup_cons]
  split
  · simp_all
  · rename_i hother
    rw [if_neg (by simpa using hother)]
    induction g.rules with
    | nil => rfl
    | cons rule rules ih =>
        obtain ⟨left, right⟩ := rule
        by_cases hleft : left = symbol
        · subst left
          simp [List.lookup_cons, ih, hother]
        · simp [List.lookup_cons, ih, hleft]

def replacement (g : Grammar) (symbol : Char) : Word := (g.rule? symbol).getD [symbol]

def derive (g : Grammar) (word : Word) : Word := word.flatMap g.replacement

/-- The word after `n` passes, with no cap. -/
def iterate (g : Grammar) : Nat → Word
  | 0 => g.start
  | n + 1 => g.derive (g.iterate n)

end Grammar

structure Expansion where
  word : Word
  passes : Nat
  /-- Whether the cap ended the growing before all passes were made. -/
  truncated : Bool
  deriving DecidableEq, Repr

namespace Grammar

/-- Makes up to `left` more passes over `word`, after `done` of them. -/
def expandFrom (g : Grammar) (cap : Nat) : Nat → Nat → Word → Expansion
  | 0, done, word => ⟨word, done, false⟩
  | left + 1, done, word =>
    let next := g.derive word
    if cap < next.length then ⟨next, done + 1, 0 < left⟩ else g.expandFrom cap left (done + 1) next

/-- Grows the start word by `passes` passes, or until it is longer than `cap`. -/
def expand (g : Grammar) (passes cap : Nat) : Expansion := g.expandFrom cap passes 0 g.start

end Grammar

end PlantGrowth
