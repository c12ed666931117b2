/-!
# Space between the parts of a document

Between the parts of a document stand blanks, line comments and block comments, and block comments
may hold others.  Reading space fails on a block comment that is never closed and on a slash that
opens no comment.
-/

namespace PlantGrowth.Document

/-- A reader takes what it reads from the front of a text and gives the rest. -/
abbrev Reader (β : Type) := List Char → Option (β × List Char)

/-- The characters that may stand between the parts of a document. -/
def isSpace (c : Char) : Bool :=
  c == ' ' || (0x09 ≤ c.toNat && c.toNat ≤ 0x0d) || c.toNat == 0x85 ||
    c.toNat == 0x200e || c.toNat == 0x200f || c.toNat == 0x2028 || c.toNat == 0x2029

inductive SpaceMode where
  | blank
  | line
  /-- A block comment inside `outer` others. -/
  | block (outer : Nat)

/-- The text behind the space that it begins with. -/
def skipSpaceFrom : SpaceMode → List Char → Option (List Char)
  | .blank, [] => some []
  | .blank, '/' :: '/' :: rest => skipSpaceFrom .line rest
  | .blank, '/' :: '*' :: rest => skipSpaceFrom (.block 0) rest
  | .blank, c :: rest =>
    if isSpace c then skipSpaceFrom .blank rest else if c == '/' then none else some (c :: rest)
  | .line, [] => some []
  | .line, c :: rest => if c == '\n' then skipSpaceFrom .blank rest else skipSpaceFrom .line rest
  | .block _, [] => none
  | .block outer, '/' :: '*' :: rest => skipSpaceFrom (.block (outer + 1)) rest
  | .block 0, '*' :: '/' :: rest => skipSpaceFrom .blank rest
  | .block (outer + 1), '*' :: '/' :: rest => skipSpaceFrom (.block outer) rest
  | .block outer, _ :: rest => skipSpaceFrom (.block outer) rest

/-- The text behind the space that it begins with. -/
def skipSpace (s : List Char) : Option (List Char) := skipSpaceFrom .blank s

def expect (c : Char) : List Char → Option (List Char)
  | [] => none
  | d :: rest => if d == c then some rest else none

/-- Reads a comma with the space around it, and tells whether there was one. -/
def comma (s : List Char) : Option (Bool × List Char) := do
  match ← skipSpace s with
  | ',' :: rest => return (true, ← skipSpace rest)
  | rest => return (false, rest)

end PlantGrowth.Document
