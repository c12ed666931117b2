import PlantGrowth.Text.Ranges

/-!
# Blanks and lines

Blanks are the characters with the Unicode property White_Space.  A line ends at a line feed, and
one carriage return right before that line feed belongs to the line end; a text that ends in a
line feed has no empty line after it.
-/

namespace PlantGrowth.Text

def blankRanges : List (Nat × Nat) :=
  [(0x09, 0x0d), (0x20, 0x20), (0x85, 0x85), (0xa0, 0xa0), (0x1680, 0x1680), (0x2000, 0x200a),
   (0x2028, 0x2029), (0x202f, 0x202f), (0x205f, 0x205f), (0x3000, 0x3000)]

def isBlank (c : Char) : Bool := inRanges blankRanges c

/-- The text without the blanks at its two ends. -/
def trim (s : List Char) : List Char :=
  ((s.dropWhile isBlank).reverse.dropWhile isBlank).reverse

/-- Drops one carriage return from the end of a line that a line feed has closed. -/
def dropReturn (line : List Char) : List Char :=
  if line.getLast? == some '\r' then line.dropLast else line

/-- The lines of a text; `line` holds the current one in reverse. -/
def linesFrom (line : List Char) : List Char → List (List Char)
  | [] => if line.isEmpty then [] else [line.reverse]
  | c :: rest =>
    if c == '\n' then dropReturn line.reverse :: linesFrom [] rest
    else linesFrom (c :: line) rest

def lines (s : List Char) : List (List Char) := linesFrom [] s

/-- The part of `s` before the first `c`, and the part behind it if `c` occurs. -/
def cut (c : Char) (s : List Char) : List Char × Option (List Char) :=
  match s.dropWhile (· != c) with
  | [] => (s.takeWhile (· != c), none)
  | _ :: rest => (s.takeWhile (· != c), some rest)

end PlantGrowth.Text
