/-
  OrderBy.Main — the program.

  The host that the command line runs on is read from the process: the
  variables named for the fields of the settings or in the file of settings,
  the home directory and the width of the terminal, the file of settings that
  the arguments name, the project markers above the working directory, and
  the clock.  After the run, what was added to files is added to the real
  ones.
-/
import OrderBy.Command.Run
import Std.Time.Zoned

namespace OrderBy.Program

/-! ## §1. Reading the process -/

/-- The text of a file, if it can be read. -/
def fileText? (path : String) : IO (Option String) := do
  try
    return some (← IO.FS.readFile path)
  catch _ =>
    return none

/-- The variables of some names that are set. -/
def readVariables (names : List String) : IO (List (String × String)) := do
  let found ← names.mapM fun name => do
    return (← IO.getEnv name).map fun value => (name, value)
  return found.filterMap id

/-- The variables that settings and tables are made from: those named for the fields of the
settings, in lower and in upper case, and those of the home directory and the terminal. -/
def knownVariables : List String :=
  Host.homeVariable :: Command.widthVariable
    :: Settings.Field.all.flatMap fun field => [field.name, field.name.toUpper]

/-- The marker entries in a directory and above it. -/
def readMarkers (working : Location) : IO (List Location) := do
  let here ← IO.currentDir
  let places := (List.range (working.names.length + 1)).map fun above =>
    Location.child ⟨working.names.drop above⟩ Project.marker
  places.filterM fun place => (here / place.path).pathExists

/-- A number in a least number of digits. -/
def digits (width n : Nat) : String :=
  let written := toString n
  String.join (List.replicate (width - written.length) "0") ++ written

/-- What the clock shows: date, time, and thousandths of a second. -/
def readClock : IO String := do
  let now ← Std.Time.PlainDateTime.now
  let date := [digits 4 now.year.toInt.toNat, digits 2 now.month.toNat, digits 2 now.day.toNat]
  let time := [digits 2 now.hour.toNat, digits 2 now.minute.toNat, digits 2 now.second.toNat]
  return String.intercalate "-" date ++ " " ++ String.intercalate ":" time ++ ","
    ++ digits 3 (now.nanosecond.toNat / 1000000)

/-- The host of the process, as far as the arguments need it. -/
def readHost (arguments : List String) : IO Host := do
  let working := Location.root.follow (← IO.currentDir).toString
  let host : Host := {
    environment := ← readVariables knownVariables, directory := working, clock := ← readClock }
  let envFile := Command.envFileOf arguments
  let path := (host.expand envFile).toOption.getD envFile
  let text ← fileText? path
  let referred := Settings.EnvFile.referredNames ((text.map String.toList).getD [])
  let unread := referred.filter fun name => !name.isEmpty && !knownVariables.contains name
  return { host with
    environment := host.environment ++ (← readVariables unread.eraseDups)
    tree := {
      files := (text.map fun text => (working.follow path, text)).toList
      directories := working :: (← readMarkers working) } }

/-! ## §2. Writing back -/

/-- Add to the real files what the run added. -/
def writeBack (former latter : Host) : IO Unit :=
  latter.tree.files.forM fun (place, text) => do
    if (former.tree.text? place).isNone then
      IO.FS.createDirAll place.parent.path
      let handle ← IO.FS.Handle.mk place.path .append
      handle.putStr text

end OrderBy.Program

/-- **The program.** -/
def main (arguments : List String) : IO UInt32 := do
  let host ← OrderBy.Program.readHost arguments
  let (outcome, latter) := OrderBy.Command.run host arguments
  OrderBy.Program.writeBack host latter
  match outcome with
  | .usage => IO.eprint OrderBy.Command.outerHelp
  | .failed failure => failure.lines.forM fun line => IO.eprintln ("Error: " ++ line)
  | .printed text => IO.print text
  return outcome.exitCode.toUInt32
