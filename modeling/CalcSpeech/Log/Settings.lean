import CalcSpeech.Environment
import CalcSpeech.Text.Unsigned
import CalcSpeech.Unicode.Lowercase

/-!
# Log settings

What an environment says about the log on the console and in a file.
-/

namespace CalcSpeech.Log

/-- The form of the log on the console. -/
inductive Format where
  | json
  | pretty
  | compact
  deriving DecidableEq, Repr

/-- The name of a form. -/
def Format.name : Format → String
  | json => "json"
  | pretty => "pretty"
  | compact => "compact"

/-- The form of a name in any case; any other name is that of the compact form. -/
def Format.ofName (name : String) : Format :=
  let name := Unicode.lowercaseString name
  if name = "json" then json else if name = "pretty" then pretty else compact

/-- Settings of the log. -/
structure Settings where
  /-- the directory for log files -/
  directory : Option String := none
  /-- the filter for the console -/
  consoleFilter : String := "spoken_math=info,tower_http=warn"
  /-- the filter for the log file -/
  fileFilter : String := "debug"
  /-- whether a log file is written -/
  writesFile : Bool := false
  format : Format := .compact
  /-- whether slow requests are reported -/
  reportsSlowRequests : Bool := true
  /-- the time beyond which a request is slow, in milliseconds -/
  slowRequestTime : Nat := 1000
  deriving DecidableEq, Repr

/-- Whether a switch is on, in any case. -/
def isOn (value : String) : Bool := Unicode.lowercaseString value == "true"

/-- The log settings of an environment. -/
def Settings.ofEnvironment (env : Environment) : Settings where
  directory := env.get? "SPOKEN_MATH_LOG_DIR"
  consoleFilter := (env.get? "RUST_LOG").getD "spoken_math=info,tower_http=warn"
  fileFilter := (env.get? "SPOKEN_MATH_FILE_LOG_LEVEL").getD "debug"
  writesFile := ((env.get? "LOG_FILE_ENABLED").map isOn).getD false
  format := ((env.get? "LOG_FORMAT").map Format.ofName).getD .compact
  reportsSlowRequests := ((env.get? "LOG_SLOW_REQUESTS").map isOn).getD true
  slowRequestTime :=
    ((env.get? "LOG_SLOW_REQUEST_THRESHOLD_MS").bind (Text.unsigned? (Nat.pow 2 64))).getD 1000

end CalcSpeech.Log
