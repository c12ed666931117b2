import PlantGrowth.Document.Quotation

/-!
# Values that nobody asked for

A record may hold fields that its reader does not know.  Their values are read and forgotten: they
may be of any shape, ranges of numbers among them, but have to be well formed and must not be
nested too deeply.
-/

namespace PlantGrowth.Document

/-- How a document may be written: what its head enables. -/
structure Dialect where
  /-- An optional value may stand for itself. -/
  bareSome : Bool
  /-- Every record has to be named. -/
  namedRecords : Bool
  /-- A record or a tuple inside `Some` needs no parentheses of its own. -/
  openSome : Bool
  deriving DecidableEq, Repr

def Dialect.plain : Dialect := ⟨false, false, false⟩

/-- The number of nested parts that a document may have. -/
def depthLimit : Nat := 128

/-- Reads the escape of a byte from behind its backslash. -/
def skipEscapedByte : List Char → Option (List Char)
  | 'x' :: rest => (hexByte? rest).map (·.2)
  | s => (escape? 1 s).map (·.2)

/-- Reads the bytes of a text up to its closing quote.  Every turn takes a character at least, so
`fuel` need not be more than the length of the text. -/
def skipBytes : Nat → List Char → Option (List Char)
  | 0, _ => none
  | _ + 1, [] => none
  | _ + 1, '"' :: rest => some rest
  | fuel + 1, '\\' :: rest => do
    skipBytes fuel (← nextLine? rest <|> skipEscapedByte rest)
  | fuel + 1, _ :: rest => skipBytes fuel rest

/-- Reads bytes in quotes, with escapes or raw. -/
def skipByteText : List Char → Option (List Char)
  | 'b' :: '"' :: rest => skipBytes (rest.length + 1) rest
  | 'b' :: 'r' :: rest => (rawFrom? rest).map (·.2)
  | _ => none

/-- Reads one byte up to its closing single quote. -/
def skipByte (s : List Char) : Option (List Char) := do
  let rest ←
    match s with
    | '\\' :: 'x' :: rest => (hexByte? rest).map (·.2)
    | '\\' :: c :: rest => if (unescapeLetter? c).isSome then some rest else none
    | c :: rest => if c.toNat < 128 then some rest else none
    | [] => none
  expect (Char.ofNat 0x27) rest

def beginsQuote : List Char → Bool
  | [] => false
  | c :: _ => c.toNat == 0x27

/-- Whether a byte in single quotes comes first. -/
def beginsByte (s : List Char) : Bool := s.head? == some 'b' && beginsQuote (s.drop 1)

def floatTypes : List String := ["f32", "f64"]

/-- Whether the text begins with something that a number may begin with. -/
def beginsNumber : List Char → Bool
  | [] => false
  | c :: rest =>
    c.isDigit || c == '+' || c == '-' || c == '.' || beginsByte (c :: rest) ||
      (floatWord? floatTypes (c :: rest)).isSome

/-- Whether a whole number can be kept: in its type if it names one, otherwise in one of 64 bits.
A decimal beyond these is taken for a number with a fraction. -/
def isKept (base : Nat) (type : Option IntegerType) (negative : Bool) (n : Nat) : Bool :=
  match type with
  | some t => t.holds negative n
  | none => base == 10 || (⟨negative, 64⟩ : IntegerType).holds negative n

def skipNumber (s : List Char) : Option (List Char) :=
  let (negative, body) := Decimal.splitSign s
  let float := (float? floatTypes s).map (·.2)
  if beginsByte s then skipByte (s.drop 2)
  else if (body.takeWhile isIntegerPart).length < (floatText body).length then float
  else
    match natural? body with
    | some (n, rest) =>
      let named := namedType? rest
      if isKept (splitBase body).1 (named.map (·.1)) negative n then
        some ((named.map (·.2)).getD rest)
      else none
    | none => float

/-- Reads the end of a range, which may be left out if it need not belong to the range. -/
def skipRangeEnd : List Char → Option (List Char)
  | '=' :: rest => skipNumber rest
  | s => if beginsNumber s then skipNumber s else some s

/-- Reads a number, or a range with numbers at its ends. -/
def skipRange (s : List Char) : Option (List Char) :=
  match s with
  | '.' :: '.' :: rest => skipRangeEnd rest
  | _ => do
    match ← skipNumber s with
    | '.' :: '.' :: rest => skipRangeEnd rest
    | rest => return rest

/-- Whether the parts behind an opening parenthesis are named. -/
def hasNames (s : List Char) : Option Bool := do
  let rest ← skipSpace s
  match name? rest with
  | some (_, more) =>
    match ← skipSpace more with
    | ':' :: _ => return true
    | _ => return false
  | none => return false

/-- The text behind what is quoted at its beginning, if anything is. -/
def dropQuoted (s : List Char) : List Char :=
  let character := if beginsQuote s then characterFrom? (s.drop 1) else none
  (character.map (·.2) <|> (text? s).map (·.2) <|> skipByteText s).getD s

/-- Whether several values with commas between them stand inside parentheses, `depth` of which have
been opened since.  Every turn takes a character at least, so `fuel` need not be more than the
length of the text. -/
def hasSeveral : Nat → Nat → List Char → Option Bool
  | 0, _, _ => none
  | fuel + 1, depth, s => do
    match dropQuoted (← skipSpace s) with
    | [] => none
    | c :: rest =>
      if c == '(' || c == '[' || c == '{' then hasSeveral fuel (depth + 1) rest
      else if c == ')' || c == ']' || c == '}' then
        if depth == 0 then return false else hasSeveral fuel (depth - 1) rest
      else if c == ',' && depth == 0 then
        return (expect ')' (← skipSpace rest)).isNone
      else hasSeveral fuel depth rest

inductive Part where
  | value
  | items (close : Char)
  | fields
  | entries

def plainWords : List String := ["true", "false", "None"]

/-- Reads one part of a value, with `depth` levels of nesting left.  Every turn takes a character
or goes one level down, so `fuel` need not be more than twice the length of the text. -/
def skipPart (dialect : Dialect) : Nat → Nat → Part → List Char → Option (List Char)
  | 0, _, _, _ => none
  | fuel + 1, depth, .value, s => do
    if let some rest := plainWords.findSome? fun w => dropWord? w.toList s then
      return rest
    if let some rest := dropWord? "Some".toList s then
      match ← skipSpace rest with
      | '(' :: inside =>
        if depth == 0 then none
        else if dialect.openSome && (← hasNames inside) then
          if depth == 1 then none
          else return ← skipPart dialect fuel (depth - 2) .fields inside
        else if dialect.openSome && (← hasSeveral (inside.length + 1) 0 inside) then
          if depth == 1 then none
          else return ← skipPart dialect fuel (depth - 2) (.items ')') inside
        else
          let rest' ← skipPart dialect fuel (depth - 1) .value (← skipSpace inside)
          let (_, rest'') ← comma rest'
          return ← expect ')' rest''
      | other =>
        if dialect.bareSome && depth != 0 then
          return ← skipPart dialect fuel (depth - 1) .value other
        else none
    if let some rest := expect '(' s then
      if let some after := expect ')' rest then return after
      if depth == 0 then none
      else
        let part := if ← hasNames rest then .fields else .items ')'
        return ← skipPart dialect fuel (depth - 1) part rest
    if beginsNumber s then return ← skipRange s
    match s with
    | '[' :: rest =>
      if depth == 0 then none else skipPart dialect fuel (depth - 1) (.items ']') rest
    | '{' :: rest => if depth == 0 then none else skipPart dialect fuel (depth - 1) .entries rest
    | '"' :: _ => (text? s).map (·.2)
    | 'r' :: '"' :: _ => (text? s).map (·.2)
    | 'r' :: '#' :: '"' :: _ => (text? s).map (·.2)
    | 'r' :: '#' :: '#' :: _ => (text? s).map (·.2)
    | 'b' :: '"' :: _ => skipByteText s
    | 'b' :: 'r' :: '"' :: _ => skipByteText s
    | 'b' :: 'r' :: '#' :: _ => skipByteText s
    | c :: rest =>
      if c.toNat == 0x27 then (characterFrom? rest).map (·.2)
      else do
        let (_, more) ← name? s
        let after ← skipSpace more
        if let some inside := expect '(' after then
          if depth == 0 then none
          else
            let part := if ← hasNames inside then .fields else .items ')'
            skipPart dialect fuel (depth - 1) part inside
        else return after
    | [] => none
  | fuel + 1, depth, .items close, s => do
    let s' ← skipSpace s
    if let some rest := expect close s' then return rest
    if depth == 0 then none
    else
      let rest ← skipPart dialect fuel (depth - 1) .value s'
      let (more, rest') ← comma rest
      if more then skipPart dialect fuel depth (.items close) rest' else expect close rest'
  | fuel + 1, depth, .fields, s => do
    let s' ← skipSpace s
    if let some rest := expect ')' s' then return rest
    if depth == 0 then none
    else
      let (_, rest) ← name? s'
      let colon ← expect ':' (← skipSpace rest)
      let rest' ← skipPart dialect fuel (depth - 1) .value (← skipSpace colon)
      let (more, rest'') ← comma rest'
      if more then skipPart dialect fuel depth .fields rest'' else expect ')' rest''
  | fuel + 1, depth, .entries, s => do
    let s' ← skipSpace s
    if let some rest := expect '}' s' then return rest
    if depth == 0 then none
    else
      let key ← skipPart dialect fuel (depth - 1) .value s'
      let colon ← expect ':' (← skipSpace key)
      let rest' ← skipPart dialect fuel (depth - 1) .value (← skipSpace colon)
      let (more, rest'') ← comma rest'
      if more then skipPart dialect fuel depth .entries rest'' else expect '}' rest''

def skipValue (dialect : Dialect) (depth : Nat) (s : List Char) : Option (List Char) :=
  skipPart dialect (2 * s.length + 2) depth .value s

end PlantGrowth.Document
