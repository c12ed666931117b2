import PlantGrowth.Decimal.Notation
import PlantGrowth.Text.Quoted

/-!
# Records as text

A record is written in parentheses with one field a line, each with a comma behind it, and with
every level of records four columns further in.
-/

namespace PlantGrowth.Document

/-- What a record says about one field: its name and the text of its value. -/
abbrev Entry := String × List Char

/-- One line of a record whose fields stand at `indent`. -/
def entryText (indent : Nat) (e : Entry) : List Char :=
  List.replicate indent ' ' ++ e.1.toList ++ ": ".toList ++ e.2 ++ ",\n".toList

/-- The text of a record that begins on a line at `indent`. -/
def recordText (indent : Nat) (entries : List Entry) : List Char :=
  "(\n".toList ++ entries.flatMap (entryText (indent + 4)) ++ List.replicate indent ' ' ++ [')']

def textOf (s : String) : List Char := Text.quotedChars true s.toList

def naturalOf (n : Nat) : List Char := Nat.toDigits 10 n

def floatOf (x : Binary32) : List Char := x.text.toList

def boolOf (b : Bool) : List Char := if b then "true".toList else "false".toList

def optionOf {β : Type} (f : β → List Char) : Option β → List Char
  | some b => "Some(".toList ++ f b ++ [')']
  | none => "None".toList

end PlantGrowth.Document
