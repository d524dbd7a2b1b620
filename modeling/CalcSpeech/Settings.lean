import CalcSpeech.Environment
import CalcSpeech.Language.Pack
import CalcSpeech.Text.Unsigned

/-!
# Settings

What the command line and the service are told by their environment. A value that makes no sense
leaves the default in force.
-/

namespace CalcSpeech

/-- Settings of the command line and the service. -/
structure Settings where
  /-- the language for unknown locales -/
  defaultLanguage : String := "en"
  /-- a directory with further language packs -/
  packDirectory : Option String := none
  /-- the port of the service -/
  port : Nat := 3000
  /-- the time for a request to the service, in seconds -/
  requestTimeout : Nat := 10
  deriving DecidableEq, Repr

namespace Settings

/-- Ports are below this bound. -/
def portBound : Nat := Nat.pow 2 16

/-- Times are below this bound. -/
def timeBound : Nat := Nat.pow 2 64

/-- The default language that a value names. -/
def languageOf (value : Option String) : String :=
  match value.map LanguageCode.normalize with
  | some language => if language = "" then "en" else language
  | none => "en"

/-- The time that a value gives, if it gives one above zero. -/
def timeoutOf? (value : String) : Option Nat := (Text.unsigned? timeBound value).filter (0 < ·)

/-- The settings of an environment. -/
def ofEnvironment (env : Environment) : Settings where
  defaultLanguage := languageOf (env.get? "SPOKEN_MATH_DEFAULT_LANGUAGE")
  packDirectory :=
    (env.get? "SPOKEN_MATH_LANGUAGE_DIR").filter fun path => !Text.isAllBlank path.toList
  port := ((env.get? "PORT").bind (Text.unsigned? portBound)).getD 3000
  requestTimeout := ((env.get? "REQUEST_TIMEOUT_SECONDS").bind timeoutOf?).getD 10

/-- The time for requests in an environment that could not be used. -/
def unusedTimeout? (env : Environment) : Option String :=
  (env.get? "REQUEST_TIMEOUT_SECONDS").filter fun value => (timeoutOf? value).isNone

end Settings

end CalcSpeech
