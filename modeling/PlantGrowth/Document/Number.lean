import PlantGrowth.Decimal.Reading
import PlantGrowth.Document.Name
import PlantGrowth.Text.Hexadecimal

/-!
# Numbers in a document

A natural number is written in decimal, or in another base behind `0x`, `0o` or `0b`; a number
with a fraction only in decimal.  Digits may be grouped by underscores, but none may come first.
A number may name its type, which then has to be the type that is asked for.  Two points end a
number, since they are the sign of a range.
-/

namespace PlantGrowth.Document

def isIntegerPart (c : Char) : Bool := (Text.hexDigit? c).isSome || c == '_'

def isFloatPart (c : Char) : Bool :=
  c.isDigit || c == 'e' || c == 'E' || c == '.' || c == '+' || c == '-' || c == '_'

/-- What a text begins with that may be part of a number with a fraction. -/
def floatText : List Char → List Char
  | [] => []
  | '.' :: '.' :: _ => []
  | c :: rest => if isFloatPart c then c :: floatText rest else []

/-- The value of digits in a base, grouped by underscores. -/
def digitsIn? (base : Nat) (ds : List Char) : Option Nat :=
  ds.foldlM (fun n c =>
    if c == '_' then some n
    else do
      let d ← Text.hexDigit? c
      if d < base then return n * base + d else none) 0

/-- The base that a number is written in, and its digits onwards. -/
def splitBase : List Char → Nat × List Char
  | '0' :: 'x' :: rest => (16, rest)
  | '0' :: 'o' :: rest => (8, rest)
  | '0' :: 'b' :: rest => (2, rest)
  | s => (10, s)

def natural? : Reader Nat := fun s => do
  let (base, body) := splitBase s
  let ds := body.takeWhile isIntegerPart
  if ds.isEmpty || ds.head? == some '_' then none
  else return (← digitsIn? base ds, body.dropWhile isIntegerPart)

structure IntegerType where
  /-- Whether there are numbers below zero. -/
  signed : Bool
  bits : Nat
  deriving DecidableEq, Repr

namespace IntegerType

/-- The name by which a number may say its type. -/
def name (t : IntegerType) : String := (if t.signed then "i" else "u") ++ toString t.bits

/-- Whether `n`, taken below zero or not, is a number of the type. -/
def holds (t : IntegerType) (negative : Bool) (n : Nat) : Bool :=
  if t.signed then
    if negative then n ≤ Nat.pow 2 (t.bits - 1) else n < Nat.pow 2 (t.bits - 1)
  else (!negative || n == 0) && n < Nat.pow 2 t.bits

def all : List IntegerType :=
  [true, false].flatMap fun signed => [8, 16, 32, 64].map fun bits => ⟨signed, bits⟩

end IntegerType

/-- The type that a text begins with the name of, and the text behind it. -/
def namedType? (s : List Char) : Option (IntegerType × List Char) :=
  IntegerType.all.findSome? fun t => (dropWord? t.name.toList s).map fun rest => (t, rest)

/-- Reads a whole number of the type `own`, its sign apart, which may be a minus where the type
has such a number. -/
def integer? (own : IntegerType) : Reader Nat := fun s => do
  let (negative, body) := Decimal.splitSign s
  let (n, rest) ← natural? body
  let (type, rest') := (namedType? rest).getD (own, rest)
  if type == own && own.holds negative n then return (n, rest') else none

/-- The names of the values that have no digits, with their values. -/
def floatWords : List (String × Binary32) :=
  [("inf", .infinity), ("+inf", .infinity), ("-inf", -.infinity), ("NaN", .notANumber),
   ("+NaN", .notANumber), ("-NaN", -.notANumber)]

/-- Reads a value that has no digits, and one of `types` behind it. -/
def floatWord? (types : List String) : Reader Binary32 := fun s =>
  floatWords.findSome? fun (name, value) =>
    ("" :: types).findSome? fun type =>
      (dropWord? (name ++ type).toList s).map fun rest => (value, rest)

/-- The digits without the underscores that group them; an underscore may stand behind a digit or
an exponent mark, but not behind a point. -/
def ungroup? : Bool → List Char → Option (List Char)
  | _, [] => some []
  | allowed, c :: rest =>
    if c == '_' then if allowed then ungroup? allowed rest else none
    else
      let allowed' := if c == '.' then false else allowed || c.isDigit || c == 'e' || c == 'E'
      (ungroup? allowed' rest).map (c :: ·)

/-- Reads a number with a fraction, or one without, that may name one of `types`. -/
def float? (types : List String) : Reader Binary32 := fun s =>
  match floatWord? types s with
  | some found => some found
  | none => do
    let body := floatText s
    let value ← Decimal.float? (← ungroup? false body)
    let rest := s.drop body.length
    return (value, (types.findSome? fun type => dropWord? type.toList rest).getD rest)

end PlantGrowth.Document
