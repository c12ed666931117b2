import PlantGrowth.Text.Quoted

/-!
# What can be wrong with a configuration

Each cause has one message, and a text that is at fault is quoted in it as it was given.
-/

namespace PlantGrowth

/-- The reasons why a configuration cannot be used, read or written. -/
inductive ConfigError where
  /-- There is no readable text in the place of the file. -/
  | unreadable
  /-- Nothing can be written in the place of the file. -/
  | unwritable
  | malformed
  | invalidColor (text : String)
  | unknownPreset (name : String)
  deriving DecidableEq, Repr

namespace ConfigError

def message : ConfigError → String
  | unreadable => "failed to read config"
  | unwritable => "failed to write config"
  | malformed => "failed to parse config"
  | invalidColor text => "invalid color " ++ Text.quoted text ++ ", expected #rrggbb"
  | unknownPreset name => "unknown preset " ++ Text.quoted name

end ConfigError

end PlantGrowth
