import CalcSpeech.Language.Directory
import CalcSpeech.Log.Directory
import CalcSpeech.Log.Filter
import CalcSpeech.Log.Settings
import CalcSpeech.Normalizer
import CalcSpeech.Settings

/-!
# The command line

The words on the command line are the transcript, and its expression is the answer. Before that
the log is started, the settings are read, and the language packs are loaded; whatever goes wrong
on the way ends the program with code 1 and no answer.
-/

namespace CalcSpeech

/-- What a command line asks for. -/
structure Invocation where
  help : Bool := false
  version : Bool := false
  server : Bool := false
  port : Option Nat := none
  language : Option String := none
  /-- the words of the transcript -/
  text : List String := []
  deriving DecidableEq, Repr

namespace Invocation

/-- Reads an argument that stands alone. -/
def readWord (i : Invocation) (arg : String) : Invocation :=
  if arg = "-h" ∨ arg = "--help" then { i with help := true }
  else if arg = "-v" ∨ arg = "--version" then { i with version := true }
  else if arg = "--server" then { i with server := true }
  else { i with text := i.text ++ [arg] }

/-- Reads the arguments that follow; an option takes the argument behind it as its value, and a
later option counts more than an earlier one. -/
def readFrom (i : Invocation) : List String → Invocation
  | [] => i
  | [arg] =>
    if arg = "--port" then { i with port := none }
    else if arg = "--lang" ∨ arg = "-l" then { i with language := none }
    else i.readWord arg
  | arg :: value :: rest =>
    if arg = "--port" then
      readFrom { i with port := Text.unsigned? Settings.portBound value } rest
    else if arg = "--lang" ∨ arg = "-l" then readFrom { i with language := some value } rest
    else readFrom (i.readWord arg) (value :: rest)

/-- Reads the arguments of a command line. -/
def ofArguments (args : List String) : Invocation := readFrom {} args

/-- The transcript. -/
def transcript (i : Invocation) : String := " ".intercalate i.text

end Invocation

/-- The version of the program. -/
def version : String := "0.1.0"

/-- The line that names the program and its version. -/
def versionText : String := s!"spoken_math v{version}\n"

/-- The help for the command line. -/
def helpText : String := versionText ++
"Turns spoken calculator transcripts into arithmetic expressions

USAGE:
    spoken_math [OPTIONS] [TEXT]...

OPTIONS:
    -l, --lang <CODE>     Transcript language (default: en, \"fr-CA\" style accepted)
    --server              Start HTTP server mode
    --port <PORT>         Server port (default: 3000)
    -h, --help            Print this help message
    -v, --version         Print version information

EXAMPLES:
    spoken_math add ten percent to two hundred
    spoken_math --lang fr trois quarts de 100
    spoken_math --server --port 8080

SERVER ENDPOINTS:
    POST   /normalize    - Normalize a transcript
    GET    /languages    - List supported languages
    GET    /health       - Health check

ENVIRONMENT VARIABLES:
    SPOKEN_MATH_DEFAULT_LANGUAGE     - Fallback language (default: en)
    SPOKEN_MATH_LANGUAGE_DIR         - Directory with extra *.json language packs
    PORT                             - Server port (default: 3000)
    REQUEST_TIMEOUT_SECONDS          - Request timeout in seconds (default: 10)
    RUST_LOG                         - Console log filter
    LOG_FILE_ENABLED                 - Write a JSON log file (true/false)
    SPOKEN_MATH_LOG_DIR              - Log file directory

Settings can also be placed in a .env file in the working directory.
"

/-- How a run of the program ends: its exit code, what it writes to the standard output, and what
it says about a failure. -/
structure Ending where
  code : Nat := 0
  output : String := ""
  complaint : Option String := none
  deriving DecidableEq, Repr

/-- The ending after a failure. -/
def Ending.failed (failure : Failure) : Ending := { code := 1, complaint := some failure.message }

/-- A started log: what passes to the console, and the log file with what passes to it. -/
structure Logging where
  console : Log.Filter
  format : Log.Format
  file : Option (String × Log.Filter) := none

/-- A run of the program: its ending, the events that reached the console in their order, with
their form, and those that reached the log file. -/
structure Run where
  ending : Ending
  format : Log.Format := .compact
  console : List Log.Event := []
  file : Option (String × List Log.Event) := none

/-- A run that ends with these events. -/
def Logging.finish (logging : Logging) (events : List Log.Event) (ending : Ending) : Run where
  ending := ending
  format := logging.format
  console := events.filter logging.console.passes
  file := logging.file.map fun (path, filter) => (path, events.filter filter.passes)

namespace CommandLine

open Log (Event)

/-- The registration of a pack in a registry, with the event that reports it. -/
def register (registry : Registry) (pack : LanguagePack) :
    Except PackFault (Event × Registry) := do
  let after ← registry.register pack
  let code := LanguageCode.normalize pack.code
  return (if registry.contains code then .replaced code else .registered code, after)

/-- The events that report the registration of packs in a registry, one after the other. -/
def registrations : Registry → List LanguagePack → List Event × Registry
  | registry, [] => ([], registry)
  | registry, pack :: rest =>
    match register registry pack with
    | .error _ => ([], registry)
    | .ok (event, after) =>
      let (events, last) := registrations after rest
      (event :: events, last)

/-- The events that report packs loaded from files into a registry. -/
def loadings : Registry → List (String × LanguagePack) → List Event
  | _, [] => []
  | registry, (path, pack) :: rest =>
    match register registry pack with
    | .error _ => []
    | .ok (event, after) => .packLoaded pack.code path :: event :: loadings after rest

/-- The events of a transcript's way through the stages. -/
def transcription (lexicon : Lexicon) (transcript : List Char) : List Event :=
  if Transcript.isTooLong transcript then [.tooLong transcript.length]
  else (Stage.trace lexicon Stage.all (Transcript.prepare transcript)).map fun (stage, text) =>
    .stageApplied stage.name lexicon.pack.code (String.ofList text)

/-- Answers with the expression for a transcript. -/
def answer (registry : Registry) (settings : Settings) (invocation : Invocation) :
    List Event × Ending :=
  let transcript := invocation.transcript
  let requested := invocation.language.getD settings.defaultLanguage
  let language := registry.resolve requested settings.defaultLanguage
  let unknown :=
    if (registry.resolve? requested).isNone ∧ LanguageCode.normalize requested ≠ "" then
      [Event.unknownLocale (LanguageCode.normalize requested) settings.defaultLanguage]
    else []
  match ({ registry } : Normalizer).compiled language with
  | .error failure => (unknown, .failed failure)
  | .ok (compiled, _) =>
    let lexicon := compiled.lexicon
    (unknown ++ .compiled lexicon.pack.code :: transcription lexicon transcript.toList,
      { output := lexicon.normalizeString transcript ++ "\n" })

variable {m : Type → Type} [Monad m] [FileSystem m]

/-- Loads the packs of the directory in the settings, if there is one, with the events that report
it. -/
def loadPacks (settings : Settings) (registry : Registry) :
    m (List Event × Except Failure Registry) := do
  match settings.packDirectory with
  | none => return ([], .ok registry)
  | some directory =>
    let loading ← registry.loadDirectory directory
    let events := loadings registry loading.loaded
    match loading.failure with
    | some failure => return (events, .error failure)
    | none =>
      return (events ++ [.packsLoaded loading.loaded.length directory], .ok loading.registry)

/-- The name of the log file of a day. -/
def logFileName (date : String) : String := "spoken_math.log." ++ date

/-- Starts the log file of the day, with the directory it is in; or the ending of the program
where that fails. -/
def startFile (date : String) (env : Environment) (settings : Log.Settings) :
    m (Except Ending (String × String × Log.Filter)) := do
  match ← Log.Directory.locate env settings.directory with
  | none => return .error (.failed (.io "the log directory cannot be made"))
  | some directory =>
    let path := Path.join directory (logFileName date)
    if !(← FileSystem.append path "") then
      return .error { code := 101, complaint := some "the log file cannot be made" }
    match Log.Filter.ofText? settings.fileFilter with
    | none =>
      return .error { code := 1, complaint := some "the filter for the log file is no filter" }
    | some filter => return .ok (directory, path, filter)

/-- Starts the log, with the event that reports it. A console filter that is none is replaced. -/
def startLog (date : String) (env : Environment) : m (Except Ending (Logging × Event)) := do
  let settings := Log.Settings.ofEnvironment env
  let console := (Log.Filter.ofText? settings.consoleFilter).getD ⟨[⟨none, Log.Level.info.detail⟩]⟩
  let logging : Logging := { console, format := settings.format }
  if settings.writesFile then
    match ← startFile date env settings with
    | .error ending => return .error ending
    | .ok (directory, path, filter) =>
      return .ok ({ logging with file := some (path, filter) }, .startedWithFile directory)
  else return .ok (logging, .started)

/-- Reads the settings and the packs, and answers. -/
def runLogged (env : Environment) (invocation : Invocation) : m (List Event × Ending) := do
  let settings := Settings.ofEnvironment env
  let unused := (Settings.unusedTimeout? env).toList.map Event.unusedTimeout
  let (builtin, registry) := registrations {} builtinPacks
  let (loaded, registry) ← loadPacks settings registry
  let before := unused ++ builtin ++ loaded
  match registry with
  | .error failure => return (before, .failed failure)
  | .ok registry =>
    if invocation.server then
      return (before, { code := 1, complaint := some "the server is not part of this program" })
    else if Text.isAllBlank invocation.transcript.toList then
      return (before, { output := helpText })
    else
      let (events, ending) := answer registry settings invocation
      return (before ++ events, ending)

/-- Runs the program on a day, with an environment and arguments. -/
def run (date : String) (env : Environment) (args : List String) : m Run := do
  let invocation := Invocation.ofArguments args
  if invocation.help then return { ending := { output := helpText } }
  else if invocation.version then return { ending := { output := versionText } }
  else
    match ← startLog date env with
    | .error ending => return { ending }
    | .ok (logging, start) =>
      let (events, ending) ← runLogged env invocation
      return logging.finish (start :: events) ending

end CommandLine

end CalcSpeech
