import CalcSpeech.CommandLine
import CalcSpeech.EnvironmentFile

/-!
# The program

Runs the command line on the files, the environment and the arguments of the machine. Everything
that is decided is decided in `CommandLine.run`; this module only reads and writes.
-/

namespace CalcSpeech.Main

/-- Whether an action ends without an error. -/
def succeeds (act : IO Unit) : IO Bool := do
  try
    act
    return true
  catch _ => return false

/-- The result of an action, if it ends without an error. -/
def result? {α : Type} (act : IO α) : IO (Option α) := do
  try return some (← act)
  catch _ => return none

/-- What a path leads to on this machine. -/
def kindOnDisk? (path : String) : IO (Option FileKind) := do
  match ← result? (IO.FS.realPath path) with
  | none => return none
  | some place =>
    if ← place.isDir then return some .directory
    else if ← place.pathExists then return some .file
    else return none

/-- Puts a text at the end of a file. -/
def appendOnDisk (path text : String) : IO Unit := do
  let handle ← IO.FS.Handle.mk path .append
  handle.putStr text

/-- The names in a directory on this machine. -/
def namesOnDisk (path : String) : IO (List String) := do
  return ((← (← IO.FS.realPath path).readDir).map (·.fileName)).toList

/-- The files of this machine. -/
instance : FileSystem IO where
  kind? path := if path = "" then return none else kindOnDisk? path
  makeDirectories path := if path = "" then return true else succeeds (IO.FS.createDirAll path)
  write path text := succeeds (IO.FS.writeFile path text)
  append path text := succeeds (appendOnDisk path text)
  remove path := discard (succeeds (IO.FS.removeFile path))
  names? path := result? (namesOnDisk path)
  read? path := result? (IO.FS.readBinFile path)

/-- The variables that the program asks for. -/
def variableNames : List String :=
  ["SPOKEN_MATH_DEFAULT_LANGUAGE", "SPOKEN_MATH_LANGUAGE_DIR", "PORT", "REQUEST_TIMEOUT_SECONDS",
    "RUST_LOG", "LOG_FILE_ENABLED", "LOG_FORMAT", "LOG_SLOW_REQUESTS",
    "LOG_SLOW_REQUEST_THRESHOLD_MS", "SPOKEN_MATH_LOG_DIR", "SPOKEN_MATH_FILE_LOG_LEVEL",
    "HOME", "XDG_DATA_HOME", "TMPDIR"]

/-- Those of the variables that are set. -/
def readVariables : List String → IO Environment
  | [] => return []
  | name :: rest => do
    let others ← readVariables rest
    match ← IO.getEnv name with
    | some value => return (name, value) :: others
    | none => return others

/-- The environment, with the variables of the environment file in the working directory. -/
def environment : IO Environment := do
  let env ← readVariables variableNames
  match (← result? (IO.FS.readFile ".env")) with
  | some text => return EnvironmentFile.extend env text
  | none => return env

/-- The date of a day, counted from the first of January 1970. -/
def dateOfDay (day : Nat) : String :=
  let shifted := day + 719468
  let era := shifted / 146097
  let dayOfEra := shifted % 146097
  let yearOfEra := (dayOfEra - dayOfEra / 1460 + dayOfEra / 36524 - dayOfEra / 146096) / 365
  let dayOfYear := dayOfEra - (365 * yearOfEra + yearOfEra / 4 - yearOfEra / 100)
  let month := (5 * dayOfYear + 2) / 153
  let dayOfMonth := dayOfYear - (153 * month + 2) / 5 + 1
  let monthOfYear := if month < 10 then month + 3 else month - 9
  let year := yearOfEra + era * 400 + if monthOfYear ≤ 2 then 1 else 0
  let two (n : Nat) := if n < 10 then s!"0{n}" else s!"{n}"
  s!"{year}-{two monthOfYear}-{two dayOfMonth}"

/-- The date of today, read off a file that is made for it. -/
def today : IO String := do
  let (_, path) ← IO.FS.createTempFile
  let time := (← path.metadata).modified
  discard (succeeds (IO.FS.removeFile path))
  return dateOfDay (time.sec.toNat / 86400)

/-- An event as a line of the log on the console. -/
def consoleLine (format : Log.Format) (e : Log.Event) : String :=
  match format with
  | .json => e.toJson.render
  | .pretty => s!"{e.level.name} {e.target}: {e.message}"
  | .compact => s!"{e.level.name} {e.message}"

/-- Writes what a run has to say, and gives its exit code. -/
def report (run : Run) : IO UInt32 := do
  for event in run.console do
    IO.eprintln (consoleLine run.format event)
  match run.file with
  | some (path, events) =>
    discard (succeeds (appendOnDisk path (String.join (events.map (·.toJson.render ++ "\n")))))
  | none => pure ()
  IO.print run.ending.output
  match run.ending.complaint with
  | some complaint => IO.eprintln s!"Error: {complaint}"
  | none => pure ()
  return run.ending.code.toUInt32

end CalcSpeech.Main

/-- Answers the command line. -/
def main (args : List String) : IO UInt32 := do
  let date ← CalcSpeech.Main.today
  let env ← CalcSpeech.Main.environment
  CalcSpeech.Main.report (← CalcSpeech.CommandLine.run date env args)
