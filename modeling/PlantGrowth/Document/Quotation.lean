import PlantGrowth.Document.Number

/-!
# Quoted text in a document

A text stands between double quotes, with escapes behind a backslash, or raw between quotes with
the same number of hashes outside both.  A text may run over line ends; a backslash before a line
end takes that away, with the blanks that the next lines begin with.  Bytes of a character in UTF-8
may be escaped one by one, and have to make up a whole character.
-/

namespace PlantGrowth.Document

/-- The character that a letter stands for behind a backslash. -/
def unescapeLetter? : Char → Option Char
  | 'n' => some '\n'
  | 'r' => some '\r'
  | 't' => some '\t'
  | '0' => some (Char.ofNat 0)
  | '"' => some '"'
  | '\\' => some '\\'
  | c => if c.toNat == 0x27 then some c else none

def hexByte? : Reader Nat
  | a :: b :: rest => do return (16 * (← Text.hexDigit? a) + (← Text.hexDigit? b), rest)
  | _ => none

/-- The character that bytes make up, if they are a whole one. -/
def ofBytes? (bytes : List Nat) : Option Char :=
  match String.fromUTF8? (ByteArray.mk (bytes.map UInt8.ofNat).toArray) with
  | some s => s.toList.head?
  | none => none

/-- Reads further escaped bytes, `left` of them at most, until they make up a character. -/
def moreBytes? : Nat → List Nat → Reader Char
  | left, bytes, s =>
    match ofBytes? bytes with
    | some c => some (c, s)
    | none =>
      match left, s with
      | more + 1, '\\' :: 'x' :: rest => do
        let (b, rest') ← hexByte? rest
        moreBytes? more (bytes ++ [b]) rest'
      | _, _ => none

/-- Reads the digits and the closing brace of an escaped code point. -/
def codePoint? (s : List Char) : Option (Char × List Char) := do
  let ds := (s.takeWhile (· != '}')).take 7
  let rest ← expect '}' (s.drop ds.length)
  let n ← digitsIn? 16 ds
  if ds.isEmpty || 6 < ds.length || ds.contains '_' || !n.isValidChar then none
  else return (Char.ofNat n, rest)

/-- Reads what follows a backslash; `bytes` is the count of bytes that may make up a character. -/
def escape? (bytes : Nat) : Reader Char
  | 'x' :: rest => do
    let (b, rest') ← hexByte? rest
    moreBytes? (bytes - 1) [b] rest'
  | 'u' :: '{' :: rest => codePoint? rest
  | c :: rest => (unescapeLetter? c).map fun d => (d, rest)
  | [] => none

/-- Whether `c` is dropped at the beginning of a line that goes on with the one before. -/
def isIndent (c : Char) : Bool := c == ' ' || c == '\t' || c == '\n' || c == '\r'

/-- The text that a line goes on with behind a backslash, if the line ends there. -/
def nextLine? : List Char → Option (List Char)
  | '\n' :: rest => some (rest.dropWhile isIndent)
  | '\r' :: '\n' :: rest => some (rest.dropWhile isIndent)
  | _ => none

/-- Reads up to the closing quote.  Every turn takes a character at least, so `fuel` need not be
more than the length of the text. -/
def quotationFrom? : Nat → Reader (List Char)
  | 0, _ => none
  | _ + 1, [] => none
  | _ + 1, '"' :: rest => some ([], rest)
  | fuel + 1, '\\' :: rest =>
    match nextLine? rest with
    | some line => quotationFrom? fuel line
    | none => do
      let (c, rest') ← escape? 4 rest
      let (cs, rest'') ← quotationFrom? fuel rest'
      return (c :: cs, rest'')
  | fuel + 1, c :: rest => do
    let (cs, rest') ← quotationFrom? fuel rest
    return (c :: cs, rest')

/-- Splits a text before the first occurrence of `close`, and drops that. -/
def splitAt? (close : List Char) : List Char → Option (List Char × List Char)
  | [] => if close.isEmpty then some ([], []) else none
  | c :: rest =>
    if close.isPrefixOf (c :: rest) then some ([], (c :: rest).drop close.length)
    else (splitAt? close rest).map fun (before, after) => (c :: before, after)

/-- Reads a raw text from its hashes on. -/
def rawFrom? (s : List Char) : Option (List Char × List Char) := do
  let hashes := s.takeWhile (· == '#')
  let body ← expect '"' (s.dropWhile (· == '#'))
  splitAt? ('"' :: hashes) body

def text? : Reader (List Char)
  | '"' :: rest => quotationFrom? (rest.length + 1) rest
  | 'r' :: rest => rawFrom? rest
  | _ => none

/-- Reads a single character between single quotes, from behind the first of them. -/
def characterFrom? (s : List Char) : Option (Char × List Char) := do
  let (c, rest) ←
    match s with
    | '\\' :: rest => escape? 1 rest
    | c :: rest => some (c, rest)
    | [] => none
  let rest' ← expect (Char.ofNat 0x27) rest
  return (c, rest')

end PlantGrowth.Document
