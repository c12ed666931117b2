import PlantGrowth.Document.Value

/-!
# Records

A record is a list of named fields in parentheses, perhaps with the name of its kind before it.
Its fields come in any order, each once at most.  A reader starts from a record that has every
field and sets those that it finds; fields of other names are passed over.
-/

namespace PlantGrowth.Document

/-- A field of a record: its name, and how its value is read into the record. -/
structure Field (β : Type) where
  name : String
  /-- Reads the value, with a number of levels of nesting left. -/
  read : Dialect → Nat → β → Reader β

/-- The kind of a record: its name and its fields. -/
structure Kind (β : Type) where
  name : String
  fields : List (Field β)

/-- A field that holds a value of a type of its own. -/
def Field.of {β γ : Type} (name : String) (read : Reader γ) (set : β → γ → β) : Field β :=
  ⟨name, fun _ _ b s => do let (v, rest) ← read s; return (set b v, rest)⟩

def bool? : Reader Bool := fun s =>
  match dropWord? "true".toList s with
  | some rest => some (true, rest)
  | none => (dropWord? "false".toList s).map fun rest => (false, rest)

def string? : Reader String := fun s => (text? s).map fun (cs, rest) => (String.ofList cs, rest)

def variant? {γ : Type} (variants : List (String × γ)) : Reader γ := fun s => do
  let (name, rest) ← name? s
  return (← variants.lookup (String.ofList name), rest)

def option? {γ : Type} (read : Reader γ) (dialect : Dialect) : Reader (Option γ) := fun s => do
  if let some rest := dropWord? "None".toList s then
    return (none, rest)
  let bare (s : List Char) : Option (Option γ × List Char) := do
    if dialect.bareSome then
      let (v, rest) ← read s
      return (some v, rest)
    else none
  match dropWord? "Some".toList s with
  | none => bare s
  | some rest =>
    let after ← skipSpace rest
    match expect '(' after with
    | none => bare after
    | some inside =>
      let (v, rest') ← read (← skipSpace inside)
      let (_, rest'') ← comma rest'
      return (some v, ← expect ')' rest'')

/-- A field that holds a value of a type of its own, or none. -/
def Field.option {β γ : Type} (name : String) (read : Reader γ) (set : β → Option γ → β) : Field β :=
  ⟨name, fun dialect _ b s => do
    let (v, rest) ← option? read dialect s
    return (set b v, rest)⟩

/-- Reads the name of a kind, if there is one before the record. -/
def kindName? (dialect : Dialect) (name : String) (s : List Char) : Option (List Char) :=
  if beginsName s then do
    let (found, rest) ← name? s
    if found == name.toList then skipSpace rest else none
  else if dialect.namedRecords then none
  else some s

/-- Reads the value of the field `name`: into the record if its kind has such a field, which must
not be among those already `seen`. -/
def fieldValue? {β : Type} (kind : Kind β) (dialect : Dialect) (depth : Nat) (seen : List String)
    (b : β) (name value : List Char) : Option (β × List String × List Char) :=
  match kind.fields.find? fun f => f.name.toList == name with
  | some f =>
    if seen.contains f.name then none
    else (f.read dialect (depth - 1) b value).map fun (b', rest) => (b', f.name :: seen, rest)
  | none => (skipValue dialect (depth - 1) value).map fun rest => (b, seen, rest)

/-- Reads fields up to the closing parenthesis; `seen` are the fields that have been set.  Every
turn takes a field, so `fuel` need not be more than the length of the text. -/
def fieldsFrom? {β : Type} (kind : Kind β) (dialect : Dialect) (depth : Nat) :
    Nat → List String → β → Reader β
  | 0, _, _, _ => none
  | fuel + 1, seen, b, s => do
    let s' ← skipSpace s
    if let some rest := expect ')' s' then return (b, rest)
    let (name, rest) ← name? s'
    let colon ← expect ':' (← skipSpace rest)
    let value ← skipSpace colon
    let (b', seen', rest') ← fieldValue? kind dialect depth seen b name value
    let (more, rest'') ← comma rest'
    if more then fieldsFrom? kind dialect depth fuel seen' b' rest''
    else return (b', ← expect ')' rest'')

def record? {β : Type} (kind : Kind β) (dialect : Dialect) (depth : Nat) (b : β) : Reader β :=
  fun s => do
    let inside ← expect '(' (← skipSpace (← kindName? dialect kind.name s))
    fieldsFrom? kind dialect (depth - 1) (inside.length + 1) [] b inside

def Field.record {β γ : Type} (kind : Kind γ) (name : String) (get : β → γ) (set : β → γ → β) :
    Field β :=
  ⟨name, fun dialect depth b s => do
    let (v, rest) ← record? kind dialect depth (get b) s
    return (set b v, rest)⟩

/-- Reads the parts of a text one after the other, with space behind each. -/
def expectAll (parts : List String) (s : List Char) : Option (List Char) :=
  parts.foldlM (fun s part =>
    if part.toList.isPrefixOf s then skipSpace (s.drop part.length) else none) s

/-- What a name in the head of a document enables. -/
def enable? (dialect : Dialect) (name : List Char) : Option Dialect :=
  if name == "implicit_some".toList then some { dialect with bareSome := true }
  else if name == "explicit_struct_names".toList then some { dialect with namedRecords := true }
  else if name == "unwrap_variant_newtypes".toList then some { dialect with openSome := true }
  else if name == "unwrap_newtypes".toList then some dialect
  else none

/-- Reads the names that a head enables, separated by commas. -/
def enabledFrom? : Nat → Dialect → Reader Dialect
  | 0, _, _ => none
  | fuel + 1, dialect, s => do
    let (name, rest) ← name? s
    let dialect' ← enable? dialect name
    let (more, rest') ← comma rest
    if more && (rest'.head?.any isFirst) then enabledFrom? fuel dialect' rest'
    else return (dialect', rest')

/-- Reads one line of a head: it enables something, or names the type of the document or where
that is described, which is not looked into. -/
def headLine? (dialect : Dialect) : Reader Dialect := fun s => do
  let inside ← expectAll ["#", "!", "["] s
  match expectAll ["enable", "("] inside with
  | some names =>
    let (dialect', rest) ← enabledFrom? (names.length + 1) dialect names
    return (dialect', ← expectAll [")", "]"] (← skipSpace rest))
  | none =>
    let value ← expectAll ["type", "="] inside <|> expectAll ["schema", "="] inside
    let (_, rest) ← text? value
    return (dialect, ← expectAll ["]"] (← skipSpace rest))

/-- Reads the head of a document: any number of lines. -/
def headFrom? : Nat → Dialect → Reader Dialect
  | 0, _, _ => none
  | fuel + 1, dialect, s =>
    match s with
    | '#' :: _ => do
      let (dialect', rest) ← headLine? dialect s
      headFrom? fuel dialect' rest
    | _ => some (dialect, s)

/-- Reads a whole document that holds one record. -/
def document? {β : Type} (kind : Kind β) (b : β) (text : String) : Option β := do
  let s ← skipSpace text.toList
  let (dialect, body) ← headFrom? (s.length + 1) Dialect.plain s
  let (b', rest) ← record? kind dialect depthLimit b body
  if (← skipSpace rest).isEmpty then return b' else none

end PlantGrowth.Document
