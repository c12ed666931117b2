import PlantGrowth.Grammar.Basic
import PlantGrowth.Text.Blank

/-!
# Rules as text

A grammar is written as one rule a line, `symbol=replacement`, with blanks around either side left
out.  What follows a second `=` is ignored.  Lines that are no rule are passed over, and of two
rules for one symbol the later one counts.
-/

namespace PlantGrowth

inductive RuleLine where
  | rule (symbol : Char) (replacement : Word)
  /-- A replacement without a single symbol to stand for. -/
  | malformed
  /-- Nothing: no `=`, or no replacement. -/
  | skipped
  deriving DecidableEq, Repr

namespace RuleLine

def ofLine (line : List Char) : RuleLine :=
  match Text.cut '=' line with
  | (_, none) => .skipped
  | (left, some rest) =>
    let replacement := Text.trim (Text.cut '=' rest).1
    if replacement.isEmpty then .skipped
    else
      match Text.trim left with
      | [symbol] => .rule symbol replacement
      | _ => .malformed

end RuleLine

namespace Grammar

/-- The grammar after one more line of its rule text. -/
def readLine (g : Grammar) (line : List Char) : Grammar :=
  match RuleLine.ofLine line with
  | .rule symbol replacement => g.withRule symbol replacement
  | _ => g

/-- The grammar with the given start word and the rules of a text. -/
def ofText (start rules : String) : Grammar :=
  (Text.lines rules.toList).foldl readLine (ofStart start.toList)

/-- The lines of a rule text that give a replacement for something other than one symbol. -/
def malformedLines (rules : String) : List (List Char) :=
  (Text.lines rules.toList).filter fun line => RuleLine.ofLine line == .malformed

end Grammar

end PlantGrowth
