import PlantGrowth.Document.Space
import PlantGrowth.Text.Identifier

/-!
# Names

Fields and variants have names.  A name may be written behind `r#`, and may then hold points and
signs; a plain name must not run on into one.
-/

namespace PlantGrowth.Document

/-- Whether `c` may stand in a name that is written behind `r#`. -/
def isRawPart (c : Char) : Bool := Text.isNamePart c || c == '.' || c == '+' || c == '-'

def isFirst (c : Char) : Bool := c == '_' || Text.isNameStart c

/-- Whether the text begins with something that can be part of a name. -/
def beginsName : List Char → Bool
  | [] => false
  | c :: _ => Text.isNamePart c

def name? : Reader (List Char)
  | 'r' :: '#' :: rest =>
    let raw := rest.takeWhile isRawPart
    if raw.isEmpty then none else some (raw, rest.dropWhile isRawPart)
  | [] => none
  | c :: rest =>
    if isFirst c then
      let plain := c :: rest.takeWhile Text.isNamePart
      match rest.dropWhile Text.isNamePart with
      | [] => some (plain, [])
      | d :: more => if isRawPart d then none else some (plain, d :: more)
    else none

/-- The text behind `word`, if it begins with it and no name runs on there. -/
def dropWord? (word : List Char) (s : List Char) : Option (List Char) :=
  if word.isPrefixOf s then
    let rest := s.drop word.length
    if beginsName rest then none else some rest
  else none

end PlantGrowth.Document
