import PlantGrowth.Decimal.Reading
import PlantGrowth.Log.Line
import PlantGrowth.Text.Blank
import PlantGrowth.Text.Pattern

/-!
# Log directives

A directive says up to which level lines are shown, and which lines it is about: those whose
target begins with a given text, and those that hold a given field.  It is written as
`target[span{field=value}]=level`, where every part may be left out; a single word that names a
level is one, and any other is a target.  A span is a stretch of the work that lines fall into.
This program marks none, so that a directive about a span, or about the value of a field, which
only spans are asked for, is well formed but about no line.
-/

namespace PlantGrowth

structure FieldDemand where
  name : List Char
  /-- The pattern that the value of the field has to match. -/
  value : Option (List Char)
  deriving DecidableEq, Repr

structure LogDirective where
  /-- What the targets begin with; all are meant without it. -/
  target : Option (List Char) := none
  span : Option (List Char) := none
  field : Option FieldDemand := none
  /-- The number of the last level that is shown, zero for none. -/
  shown : Nat := 5
  deriving DecidableEq, Repr

namespace LogDirective

def levels : List (String × Nat) :=
  [("off", 0), ("error", 1), ("warn", 2), ("info", 3), ("debug", 4), ("trace", 5)]

/-- The level that a name in any case of letters or a number stands for. -/
def level? (s : List Char) : Option Nat :=
  match Decimal.naturalBelow? 6 s with
  | some n => some n
  | none => levels.lookup (String.ofList (s.map Char.toLower))

/-- Whether a directive may begin with `c`, if it does not begin with a bracket. -/
def isFirst (c : Char) : Bool := c == '-' || c == ':' || c == '_' || Text.isAlphanumeric c

/-- A text and its guide.  The guide is the text without the blanks at its ends: the signs that
divide a directive are looked for in the guide, but the text is cut at the same places, blanks and
all. -/
structure Guided where
  guide : List Char
  text : List Char

/-- The text before the first of some signs, and both texts from there on. -/
def Guided.cut (isSign : Char → Bool) (g : Guided) : List Char × Guided :=
  let n := (g.guide.takeWhile fun c => !isSign c).length
  (g.text.take n, ⟨g.guide.drop n, g.text.drop n⟩)

def Guided.tail (g : Guided) : Guided := ⟨g.guide.drop 1, g.text.drop 1⟩

/-- Reads what a directive asks of a field; a value is a number or a pattern, and ends at a second
equals sign. -/
def demand? (s : List Char) : Option FieldDemand :=
  let (name, rest) := Text.cut '=' s
  let value := rest.map fun v => (Text.cut '=' v).1
  if s.isEmpty || value.any fun v => (Decimal.float? v).isNone && !Text.isPattern v then none
  else some ⟨name, value⟩

/-- Reads the level of a directive that is complete but for that. -/
def withLevel? (d : LogDirective) (s : List Char) : Option LogDirective :=
  if s.isEmpty then some d else (level? s).map fun n => { d with shown := n }

/-- Reads what stands behind the brackets of a directive. -/
def afterBrackets? (d : LogDirective) (g : Guided) : Option LogDirective :=
  match g.guide with
  | [] => some d
  | '=' :: _ => d.withLevel? g.tail.text
  | _ => none

/-- Reads the brackets of a directive from behind the first of them. -/
def brackets? (d : LogDirective) (g : Guided) : Option LogDirective := do
  let (span, g) := g.cut fun c => c == ']' || c == '{'
  match g.guide with
  | [] => none
  | ']' :: _ => afterBrackets? { d with span := some span } g.tail
  | _ =>
    let (field, g) := g.tail.cut (· == '}')
    let field ← demand? field
    match g.guide with
    | '}' :: ']' :: _ =>
      let span := if span.isEmpty then none else some span
      afterBrackets? { d with span, field := some field } g.tail.tail
    | _ => none

def ofText? (s : List Char) : Option LogDirective :=
  let g : Guided := ⟨Text.trim s, s⟩
  match g.guide with
  | [] => none
  | '[' :: _ => brackets? {} g.tail
  | c :: _ =>
    if !isFirst c then none
    else
      let (target, g) := g.cut fun c => c == '=' || c == '['
      match g.guide with
      | [] => some ((level? s).elim { target := some s } fun n => { shown := n })
      | '=' :: _ => ({ target := some target } : LogDirective).withLevel? g.tail.text
      | _ => brackets? { target := some target } g.tail

def weight (d : LogDirective) : Nat :=
  match d.target with
  | none => 0
  | some t => t.length + 1

/-- The field that a directive asks for, empty if it asks for none. -/
def fieldName (d : LogDirective) : List Char := (d.field.map (·.name)).getD []

def isAbout (d : LogDirective) (l : LogLine) : Bool :=
  d.span.isNone && d.target.all (·.isPrefixOf l.target.toList) &&
    d.field.all fun f => f.value.isNone && l.fields.any fun name => name.toList == f.name

/-- Whether `e` decides about a line that `d` before it is also about: that with more of the target
does, then that with a field, and of two with fields that whose name is not before the other's. -/
def yieldsTo (d e : LogDirective) : Bool :=
  d.weight < e.weight || (d.weight == e.weight && !decide (e.fieldName < d.fieldName))

end LogDirective

end PlantGrowth
