import CalcSpeech.Environment
import CalcSpeech.Files.FileSystem

/-!
# The directory for log files

A directory that was asked for is taken as it is. Without one the log goes below the user's data
directory, or below the home directory, wherever it can be made, and else below the directory for
temporary files. The directory is made if there is nothing at its path.
-/

namespace CalcSpeech.Log.Directory

variable {m : Type → Type} [Monad m] [FileSystem m]

/-- The name of the file by which writing is tried. -/
def probeName : String := ".write_test"

/-- Whether a file can be made in a directory. -/
def isWritable (directory : String) : m Bool := do
  let probe := Path.join directory probeName
  if ← FileSystem.write probe "test" then
    FileSystem.remove probe
    return true
  else
    return false

/-- Whether the first of a row of directories that is there is writable. -/
def firstIsWritable : List String → m Bool
  | [] => return false
  | directory :: outer => do
    if (← FileSystem.kind? directory).isSome then isWritable directory else firstIsWritable outer

/-- Whether a directory could be made, or is there and writable. -/
def canMake (directory : String) : m Bool := firstIsWritable (Path.ancestors directory)

/-- The home directory. -/
def home? (env : Environment) : Option String := (env.get? "HOME").filter (· != "")

/-- The directory for the user's data. -/
def userData? (env : Environment) : Option String :=
  match (env.get? "XDG_DATA_HOME").filter Path.isAbsolute with
  | some path => some path
  | none => (home? env).map (Path.join · ".local/share")

/-- The directory for temporary files. -/
def temporary (env : Environment) : String := (env.get? "TMPDIR").getD "/tmp"

/-- The places for logs that must first be tried, in order. -/
def candidates (env : Environment) : List String :=
  ((userData? env).map fun path => Path.join (Path.join path "spoken_math") "logs").toList ++
    ((home? env).map fun path => Path.join (Path.join path ".spoken_math") "logs").toList

/-- The first of a row of places where a directory can be made, or the last resort. -/
def firstThatCanBeMade (last : String) : List String → m String
  | [] => return last
  | path :: rest => do
    if ← canMake path then return path else firstThatCanBeMade last rest

/-- A path at which there is something, after a directory was made there if there was nothing. -/
def ensure (path : String) : m (Option String) := do
  if (← FileSystem.kind? path).isSome then return some path
  else if ← FileSystem.makeDirectories path then return some path
  else return none

/-- The directory for log files, if it is there or could be made. -/
def locate (env : Environment) (custom : Option String) : m (Option String) := do
  match custom.or (env.get? "SPOKEN_MATH_LOG_DIR") with
  | some path => ensure path
  | none =>
    let path ← firstThatCanBeMade (Path.join (temporary env) "spoken_math_logs") (candidates env)
    ensure path

end CalcSpeech.Log.Directory
