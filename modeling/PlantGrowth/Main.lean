import PlantGrowth.Session.Run

/-!
# The program

Finds the configuration, runs one session, and carries out what came of it: the configuration is
written if it is new, and the lines of the log go to the screen and into a file beside it.
-/

namespace PlantGrowth.Program

/-- The folder of the configuration where none is named. -/
def defaultFolder : IO String := do
  match ← IO.getEnv "XDG_CONFIG_HOME" with
  | some base =>
    if base.startsWith "/" then
      return base ++ "/arbor"
  | none => pure ()
  match ← IO.getEnv "HOME" with
  | some home => return home ++ "/.config/arbor"
  | none => return ".arbor"

def fileIn (folder : String) : String := folder ++ "/config.ron"

/-- Whether there is a folder, or one could be made. -/
def isFolder (folder : String) : IO Bool := do
  try
    IO.FS.createDirAll folder
    return true
  catch _ => return false

/-- What stands in the place of the configuration. -/
def placeIn (folder : String) : IO ConfigPlace := do
  try
    match String.fromUTF8? (← IO.FS.readBinFile (fileIn folder)) with
    | some contents => return .text contents
    | none => return .garbled
  catch e =>
    match e with
    | .noFileOrDirectory .. => return .empty
    | .inappropriateType .. => return if ← isFolder folder then .folder else .blocked
    | _ => return .garbled

/-- Writes the configuration if the session has changed it. -/
def keep (folder : String) (before after : ConfigPlace) : IO Unit := do
  match after with
  | .text contents =>
    if before != after then
      try
        IO.FS.createDirAll folder
        IO.FS.writeFile (fileIn folder) contents
      catch _ => IO.eprintln (Session.complaint .unwritable)
  | _ => return

def uptime (start : Nat) : IO String := do
  let nanos := (← IO.monoNanosNow) - start
  let pad (width : Nat) (fill : Char) (n : Nat) : String :=
    let ds := Nat.toDigits 10 n
    String.ofList (List.replicate (width - ds.length) fill ++ ds)
  return pad 4 ' ' (nanos / 1000000000) ++ "." ++ pad 9 '0' (nanos % 1000000000) ++ "s"

/-- Shows the lines of the log, and keeps them in a file. -/
def log (folder : String) (start : Nat) (o : Session.Outcome) : IO Unit := do
  let time ← uptime start
  for l in o.log do
    let margin := String.ofList (List.replicate (5 - l.level.name.length) ' ')
    IO.println (time ++ " " ++ margin ++ l.text)
  if o.logKept then
    IO.FS.createDirAll (folder ++ "/logs")
    IO.FS.writeFile (folder ++ "/logs/" ++ logFileName)
      (String.join (o.log.map fun l => l.record time ++ "\n"))

/-- Runs one session and carries out what came of it. -/
def run (args : List String) : IO UInt32 := do
  let start ← IO.monoNanosNow
  let named := (Flags.ofWords args).toOption.bind Flags.folder
  let folder ←
    match named with
    | some folder => pure folder
    | none => defaultFolder
  let place ← placeIn folder
  let o := Session.run
    { args, place
      filter := ← IO.getEnv "RUST_LOG"
      freshSeed := (← IO.rand 0 (UInt64.size - 1)).toUInt64 }
  keep folder place o.place
  for line in o.answer do
    IO.println line
  for line in o.complaints do
    IO.eprintln line
  log folder start o
  return o.exitCode

end PlantGrowth.Program

def main (args : List String) : IO UInt32 := PlantGrowth.Program.run args
