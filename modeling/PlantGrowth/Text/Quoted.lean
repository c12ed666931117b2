import PlantGrowth.Text.Printable

/-!
# Quoted text

A text inside a message or a file stands between double quotes.  The quote, the backslash and the
usual controls are written with a backslash and a letter, every other character that would not
show with its code point in hexadecimal.  A file also escapes the single quote; a message does
not.
-/

namespace PlantGrowth.Text

/-- The letter that stands for a character behind a backslash. -/
def escapeLetter? : Char → Option Char
  | '\n' => some 'n'
  | '\r' => some 'r'
  | '\t' => some 't'
  | '"' => some '"'
  | '\\' => some '\\'
  | c => if c.toNat == 0 then some '0' else none

/-- One character of a quoted text; `apostrophe` tells whether a single quote is escaped. -/
def escapeChar (apostrophe : Bool) (c : Char) : List Char :=
  match escapeLetter? c with
  | some letter => ['\\', letter]
  | none =>
    if apostrophe && c.toNat == 0x27 then ['\\', c]
    else if isPrintable c then [c]
    else ['\\', 'u', '{'] ++ Nat.toDigits 16 c.toNat ++ ['}']

def quotedChars (apostrophe : Bool) (s : List Char) : List Char :=
  '"' :: s.flatMap (escapeChar apostrophe) ++ ['"']

/-- A text as messages show it. -/
def quoted (s : String) : String := String.ofList (quotedChars false s.toList)

end PlantGrowth.Text
