import PlantGrowth.Config.Printer
import PlantGrowth.Config.Reader

/-!
# The place of a configuration

A configuration is kept in one file of a folder that is made when it is first needed.  What stands
in that place decides what can be done: nothing can be read where there is no text, and nothing
can be written where a file cannot be replaced or a file and a folder stand in each other's place.
A failed reading leaves the place as it is.
-/

namespace PlantGrowth

/-- What stands in the place of a configuration file. -/
inductive ConfigPlace where
  /-- Nothing yet, whether or not there is a folder to put it in. -/
  | empty
  | text (contents : String)
  /-- A text that can be read but not replaced. -/
  | sealed (contents : String)
  /-- A file whose bytes are no text. -/
  | garbled
  /-- A folder where the file should be. -/
  | folder
  /-- No file, and none can be put there: a file stands where its folder should be. -/
  | blocked
  deriving DecidableEq, Repr

namespace ConfigPlace

/-- The text that can be read, if there is one. -/
def contents? : ConfigPlace → Option String
  | text contents | sealed contents => some contents
  | _ => none

/-- The place after a text has been written there, if that can be done. -/
def write? (contents : String) : ConfigPlace → Option ConfigPlace
  | empty | text _ | garbled => some (text contents)
  | sealed _ | folder | blocked => none

/-- The place after the file has been removed, if there was one. -/
def remove? : ConfigPlace → Option ConfigPlace
  | text _ | garbled => some empty
  | empty | sealed _ | folder | blocked => none

/-- Whether something stands in the place of the file itself. -/
def isTaken : ConfigPlace → Bool
  | text _ | sealed _ | garbled | folder => true
  | empty | blocked => false

def save (place : ConfigPlace) (c : Config) : Except ConfigError ConfigPlace :=
  match place.write? c.print with
  | some place' => .ok place'
  | none => .error .unwritable

def read (place : ConfigPlace) : Except ConfigError Config :=
  match place.contents? with
  | some contents => Config.parse contents
  | none => .error .unreadable

/-- Reads the configuration that is there; where there is none, writes the standard one. -/
def load (place : ConfigPlace) : Except ConfigError (Config × ConfigPlace) :=
  if place.isTaken then do return (← place.read, place)
  else do return (Config.standard, ← place.save Config.standard)

/-- Reads the configuration that is there and gives it if it differs from `c`. -/
def reload (place : ConfigPlace) (c : Config) : Except ConfigError (Option Config) := do
  let found ← place.read
  return if found == c then none else some found

end ConfigPlace

end PlantGrowth
