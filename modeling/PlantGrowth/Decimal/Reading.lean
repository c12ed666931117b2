import PlantGrowth.Decimal.Basic

/-!
# Reading numbers

The plain form of a number is a sign, digits with a point among them, and an exponent.  At least
one digit stands before the exponent, and at least one in it.  Infinity and what is not a number
are spelled out, in any case of letters.
-/

namespace PlantGrowth.Decimal

def digitsValue (ds : List Char) : Nat :=
  ds.foldl (fun n c => n * 10 + (c.toNat - '0'.toNat)) 0

/-- A natural number in decimal digits, nothing else. -/
def natural? (s : List Char) : Option Nat :=
  if s.isEmpty || !s.all Char.isDigit then none else some (digitsValue s)

/-- An optional sign, told as whether it is a minus. -/
def splitSign : List Char → Bool × List Char
  | '-' :: rest => (true, rest)
  | '+' :: rest => (false, rest)
  | s => (false, s)

/-- The exponent at the end of a number, zero if there is none. -/
def exponent? : List Char → Option Int
  | [] => some 0
  | c :: rest =>
    if c == 'e' || c == 'E' then
      let (negative, ds) := splitSign rest
      (natural? ds).map fun n => if negative then -(n : Int) else n
    else none

/-- An unsigned number: digits, perhaps with a point before, among or behind them, and perhaps an
exponent. -/
def unsigned? (s : List Char) : Option Decimal :=
  let whole := s.takeWhile Char.isDigit
  let afterWhole := s.dropWhile Char.isDigit
  let (part, tail) :=
    match afterWhole with
    | '.' :: rest => (rest.takeWhile Char.isDigit, rest.dropWhile Char.isDigit)
    | rest => ([], rest)
  if whole.isEmpty && part.isEmpty then none
  else (exponent? tail).map fun e => ⟨digitsValue (whole ++ part), e - part.length⟩

/-- A number with a sign: a minus turns also that of what is not a number. -/
def signed (negative : Bool) (x : Binary32) : Binary32 := if negative then -x else x

/-- The binary32 number that a text stands for. -/
def float? (s : List Char) : Option Binary32 :=
  let (negative, body) := splitSign s
  let word := body.map Char.toLower
  if word == "inf".toList || word == "infinity".toList then some (signed negative .infinity)
  else if word == "nan".toList then some (signed negative .notANumber)
  else (unsigned? body).map fun d => signed negative d.toBinary32

/-- The natural number below `bound` that a text stands for; a plus sign may stand before it. -/
def naturalBelow? (bound : Nat) (s : List Char) : Option Nat :=
  let body :=
    match s with
    | '+' :: rest => rest
    | _ => s
  match natural? body with
  | some n => if n < bound then some n else none
  | none => none

/-- The natural number below `bound` that a text stands for; a sign may stand before it, but a
minus only before zero. -/
def unsignedBelow? (bound : Nat) (s : List Char) : Option Nat :=
  match s with
  | '-' :: rest => if natural? rest == some 0 then some 0 else none
  | _ => naturalBelow? bound s

end PlantGrowth.Decimal
