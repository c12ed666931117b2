import PlantGrowth.Config.Basic
import PlantGrowth.Log.Directive

/-!
# Log filters

A filter is a list of directives, separated by commas.  Of those that are about a line the one
with the longest target decides about it, and a line that none is about is not shown.
-/

namespace PlantGrowth

abbrev LogFilter := List LogDirective

namespace LogFilter

/-- The texts between commas, but for empty ones. -/
def pieces (text : String) : List (List Char) :=
  ((text.splitOn ",").map String.toList).filter fun piece => !piece.isEmpty

/-- The filter that a text stands for, if all of its directives can be read. -/
def ofText? (text : String) : Option LogFilter := (pieces text).mapM LogDirective.ofText?

/-- The filter of those directives of a text that can be read.  Where there are none, errors are
shown. -/
def ofTextLossy (text : String) : LogFilter :=
  match (pieces text).filterMap LogDirective.ofText? with
  | [] => [{ shown := 1 }]
  | directives => directives

/-- The directive that decides about a line: of equal ones the last. -/
def deciding? (f : LogFilter) (l : LogLine) : Option LogDirective :=
  (f.filter (·.isAbout l)).foldl (fun best d =>
    match best with
    | none => some d
    | some b => if b.yieldsTo d then some d else some b) none

def shows (f : LogFilter) (l : LogLine) : Bool :=
  match f.deciding? l with
  | some d => l.level.rank ≤ d.shown
  | none => false

/-- The filter text that holds where nothing is said. -/
def standardText : String := "info"

/-- The filter text of a configuration, if there is one. -/
def textFor (config : Option Config) : String :=
  match config with
  | none => standardText
  | some c =>
    match Text.trim c.debug.logLevel.toList with
    | [] => standardText
    | level => String.ofList level

/-- The filter for a configuration.  What the environment asks for wins, if it can be read. -/
def choose (environment : Option String) (config : Option Config) : LogFilter :=
  match environment.bind ofText? with
  | some f => f
  | none => ofTextLossy (textFor config)

end LogFilter

/-- The name of the file that all lines are kept in. -/
def logFileName : String := "arbor.log"

end PlantGrowth
