import PlantGrowth.Text.Alphanumeric
import PlantGrowth.Text.Hexadecimal

/-!
# Search patterns

A pattern describes texts: characters stand for themselves, a bracket encloses a set of
characters, a parenthesis a group, and a bar divides alternatives; a star, a plus or a question
mark says how often what stands before it may come.  Here a pattern is only checked: what it finds
is never asked.  Counted repetitions and properties by name are not understood.
-/

namespace PlantGrowth.Text

/-- Reads the character with a given count of hexadecimal digits. -/
def hexChar? (count : Nat) (s : List Char) : Option (Char × List Char) := do
  let n ← (s.take count).foldlM (fun n c => (hexDigit? c).map (16 * n + ·)) 0
  if s.length < count || !n.isValidChar then none else return (Char.ofNat n, s.drop count)

/-- The controls that letters stand for behind a backslash, by their codes. -/
def controlLetters : List (Char × Nat) :=
  [('a', 0x07), ('f', 0x0c), ('t', 0x09), ('n', 0x0a), ('r', 0x0d), ('v', 0x0b)]

/-- Reads what stands behind a backslash for one character. -/
def patternEscape? : List Char → Option (Char × List Char)
  | [] => none
  | 'x' :: rest => hexChar? 2 rest
  | 'u' :: rest => hexChar? 4 rest
  | 'U' :: rest => hexChar? 8 rest
  | c :: rest =>
    match controlLetters.lookup c with
    | some code => some (Char.ofNat code, rest)
    | none =>
      if 0x20 ≤ c.toNat && c.toNat < 0x7f && !c.isAlphanum && c != '<' && c != '>' then
        some (c, rest)
      else none

def setChar? : List Char → Option (Char × List Char)
  | [] => none
  | '\\' :: rest => patternEscape? rest
  | c :: rest => some (c, rest)

/-- The names of the sets that may be named inside a set. -/
def setNames : List String :=
  ["alnum", "alpha", "ascii", "blank", "cntrl", "digit", "graph", "lower", "print", "punct",
   "space", "upper", "word", "xdigit"]

/-- The text behind the name of a set, from behind its opening bracket. -/
def dropSetName? (s : List Char) : Option (List Char) :=
  setNames.findSome? fun name =>
    [":", ":^"].findSome? fun mark =>
      let whole := (mark ++ name ++ ":]").toList
      if whole.isPrefixOf s then some (s.drop whole.length) else none

/-- The text behind what a set may begin with besides its members: a sign that all others are
meant, minus signs that stand for themselves, or a closing bracket that does. -/
def dropSetHead (s : List Char) : List Char :=
  let members :=
    match s with
    | '^' :: rest => rest
    | _ => s
  match members with
  | ']' :: rest => rest
  | _ => members.dropWhile (· == '-')

/-- Reads the members of a set inside `outer` others, up to the bracket that closes the outermost.
Every turn takes a character at least, so `fuel` need not be more than the length of the text. -/
def dropSet? : Nat → Nat → List Char → Option (List Char)
  | 0, _, _ => none
  | _ + 1, _, [] => none
  | _ + 1, 0, ']' :: rest => some rest
  | fuel + 1, outer + 1, ']' :: rest => dropSet? fuel outer rest
  | fuel + 1, outer, '[' :: rest =>
    match dropSetName? rest with
    | some rest' => dropSet? fuel outer rest'
    | none => dropSet? fuel (outer + 1) (dropSetHead rest)
  | fuel + 1, outer, s => do
    let (low, rest) ← setChar? s
    match rest with
    | '-' :: ']' :: _ | '-' :: '-' :: _ => dropSet? fuel outer rest
    | '-' :: more =>
      let (high, rest') ← setChar? more
      if low ≤ high then dropSet? fuel outer rest' else none
    | _ => dropSet? fuel outer rest

/-- Whether letters, and letters behind a minus, are switches that a group may have. -/
def areSwitches (s : List Char) : Bool :=
  let off := (s.dropWhile (· != '-')).drop 1
  let letters := s.filter (· != '-')
  letters.all "msUuxR".toList.contains && letters.eraseDups.length == letters.length &&
    (letters.length == s.length || (letters.length + 1 == s.length && !off.isEmpty))

/-- The text behind what a group begins with, from behind its parenthesis, and whether the group
is still open there. -/
def groupHead? : List Char → Option (Bool × List Char)
  | '?' :: rest =>
    let named :=
      match rest with
      | 'P' :: '<' :: name => some name
      | '<' :: name => some name
      | _ => none
    match named with
    | some name =>
      let letters := name.takeWhile (· != '>')
      let begins := letters.head?.any fun c => c == '_' || (isAlphanumeric c && !c.isDigit)
      let goesOn := letters.all fun c => isAlphanumeric c || ['_', '.', '[', ']'].contains c
      if begins && goesOn && letters.length < name.length then
        some (true, name.drop (letters.length + 1))
      else none
    | none =>
      let switches := rest.takeWhile fun c => c != ':' && c != ')'
      if areSwitches switches then
        match rest.drop switches.length with
        | ':' :: inside => some (true, inside)
        | ')' :: behind => if switches.isEmpty then none else some (false, behind)
        | _ => none
      else none
  | s => some (true, s)

/-- Whether the rest of a pattern is well formed, inside `groups` groups; `repeatable` tells whether
something stands before it that may be repeated.  Every turn takes a character at least, so `fuel`
need not be more than the length of the text. -/
def isPatternFrom : Nat → Nat → Bool → List Char → Bool
  | 0, _, _, _ => false
  | _ + 1, groups, _, [] => groups == 0
  | fuel + 1, groups, repeatable, c :: rest =>
    if c == '(' then
      match groupHead? rest with
      | some (true, inside) => isPatternFrom fuel (groups + 1) false inside
      | some (false, behind) => isPatternFrom fuel groups false behind
      | none => false
    else if c == ')' then groups != 0 && isPatternFrom fuel (groups - 1) true rest
    else if c == '|' then isPatternFrom fuel groups false rest
    else if c == '[' then
      match dropSet? (rest.length + 1) 0 (dropSetHead rest) with
      | some behind => isPatternFrom fuel groups true behind
      | none => false
    else if c == '*' || c == '+' || c == '?' then
      let behind := if rest.head? == some '?' then rest.drop 1 else rest
      repeatable && isPatternFrom fuel groups true behind
    else if c == '{' then false
    else if c == '\\' then
      if rest.head? == some 'A' || rest.head? == some 'z' then
        isPatternFrom fuel groups true (rest.drop 1)
      else
        match patternEscape? rest with
        | some (_, behind) => isPatternFrom fuel groups true behind
        | none => false
    else isPatternFrom fuel groups true rest

def isPattern (s : List Char) : Bool := isPatternFrom (s.length + 1) 0 false s

end PlantGrowth.Text
