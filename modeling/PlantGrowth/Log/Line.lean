/-!
# Log lines

A line of the log says how much it matters, which part of the program speaks, and what it has to
say.  On the screen it stands behind the time since the start, with the controls that a terminal
would obey escaped; in a file it is an object with these as its members.
-/

namespace PlantGrowth

/-- How much a line matters. -/
inductive LogLevel where
  | error
  | warn
  | info
  | debug
  | trace
  deriving DecidableEq, Repr

namespace LogLevel

/-- The number of a level; what matters most has the least. -/
def rank : LogLevel → Nat
  | error => 1
  | warn => 2
  | info => 3
  | debug => 4
  | trace => 5

def name : LogLevel → String
  | error => "ERROR"
  | warn => "WARN"
  | info => "INFO"
  | debug => "DEBUG"
  | trace => "TRACE"

end LogLevel

structure LogLine where
  level : LogLevel
  target : String
  /-- The names of what the line holds, its message among them. -/
  fields : List String
  message : String
  deriving DecidableEq, Repr

namespace LogLine

/-- The controls of ASCII that a terminal may take for more than a character. -/
def terminalControls : List Nat := [0x07, 0x08, 0x0c, 0x1b, 0x7f]

def screenChar (c : Char) : List Char :=
  if terminalControls.contains c.toNat then
    let ds := Nat.toDigits 16 c.toNat
    ['\\', 'x'] ++ List.replicate (2 - ds.length) '0' ++ ds
  else if 0x80 ≤ c.toNat && c.toNat ≤ 0x9f then
    ['\\', 'u', '{'] ++ Nat.toDigits 16 c.toNat ++ ['}']
  else [c]

def text (l : LogLine) : String :=
  l.level.name ++ " " ++ l.target ++ ": " ++ String.ofList (l.message.toList.flatMap screenChar)

/-- The letter that stands for a control behind a backslash in an object. -/
def memberLetter? : Char → Option Char
  | '\n' => some 'n'
  | '\r' => some 'r'
  | '\t' => some 't'
  | c => if c.toNat == 0x08 then some 'b' else if c.toNat == 0x0c then some 'f' else none

def memberChar (c : Char) : List Char :=
  if c == '"' || c == '\\' then ['\\', c]
  else if let some letter := memberLetter? c then ['\\', letter]
  else if c.toNat < 32 then
    let ds := Nat.toDigits 16 c.toNat
    ['\\', 'u'] ++ List.replicate (4 - ds.length) '0' ++ ds
  else [c]

def member (s : String) : String := "\"" ++ String.ofList (s.toList.flatMap memberChar) ++ "\""

/-- The line as it is kept in a file, at a time since the start. -/
def record (l : LogLine) (time : String) : String :=
  "\x7b\"timestamp\":" ++ member time ++ ",\"level\":" ++ member l.level.name ++
    ",\"fields\":\x7b\"message\":" ++ member l.message ++ "\x7d,\"target\":" ++
    member l.target ++ "\x7d"

end LogLine

end PlantGrowth
