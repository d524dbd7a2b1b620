import CalcSpeech.Json.Basic
import CalcSpeech.Text.Quotation
import CalcSpeech.Transcript

/-!
# Log events

What the program reports about its work. Each event has a level, a target that names the part of
the program it comes from, and fields, the first of which is a message.
-/

namespace CalcSpeech.Log

/-- How much an event matters. -/
inductive Level where
  | error
  | warn
  | info
  | debug
  | trace
  deriving DecidableEq, Repr

namespace Level

/-- The name of a level in the log. -/
def name : Level → String
  | error => "ERROR"
  | warn => "WARN"
  | info => "INFO"
  | debug => "DEBUG"
  | trace => "TRACE"

/-- How much detail a level goes into; nothing goes into none. -/
def detail : Level → Nat
  | error => 1
  | warn => 2
  | info => 3
  | debug => 4
  | trace => 5

end Level

/-- An event. -/
inductive Event where
  | startedWithFile (directory : String)
  | started
  | unusedTimeout (value : String)
  | registered (language : String)
  | replaced (language : String)
  | packLoaded (language path : String)
  | packsLoaded (count : Nat) (directory : String)
  | unknownLocale (requested fallback : String)
  | compiled (language : String)
  | stageApplied (stage language output : String)
  | tooLong (length : Nat)
  deriving DecidableEq, Repr

namespace Event

/-- The level of an event. -/
def level : Event → Level
  | startedWithFile _ | replaced _ | packLoaded .. | packsLoaded .. => .info
  | started | registered _ | unknownLocale .. | compiled _ => .debug
  | unusedTimeout _ | tooLong _ => .warn
  | stageApplied .. => .trace

/-- The part of the program that an event comes from. -/
def target : Event → String
  | startedWithFile _ | started => "spoken_math::logging"
  | unusedTimeout _ => "spoken_math::config::settings"
  | registered _ | replaced _ | packLoaded .. | unknownLocale .. =>
    "spoken_math::languages::registry"
  | packsLoaded .. => "spoken_math"
  | compiled _ => "spoken_math::text_processing::cache"
  | stageApplied .. | tooLong _ => "spoken_math::text_processing::pipeline"

/-- The message of an event. -/
def message : Event → String
  | startedWithFile _ => "Logging initialized with application log file"
  | started => "Logging initialized (console only)"
  | unusedTimeout value => s!"Invalid REQUEST_TIMEOUT_SECONDS '{value}', using default 10s"
  | registered _ => "Registered language patterns"
  | replaced _ => "Replaced language patterns"
  | packLoaded .. => "Loaded language pack"
  | packsLoaded .. => "Loaded extra language packs"
  | unknownLocale .. => "Unknown language, using fallback"
  | compiled _ => "Compiled language patterns"
  | stageApplied .. => "Rewrite stage applied"
  | tooLong _ => "Transcript too long, skipping normalization"

/-- The fields of an event beside its message. -/
def details : Event → List (String × Json)
  | startedWithFile directory => [("log_dir", .text (Text.showQuoted directory))]
  | registered language | replaced language | compiled language => [("language", .text language)]
  | packLoaded language path => [("language", .text language), ("path", .text path)]
  | packsLoaded count directory => [("count", .number count), ("dir", .text directory)]
  | unknownLocale requested fallback =>
    [("requested", .text requested), ("fallback", .text fallback)]
  | stageApplied stage language output =>
    [("stage", .text stage), ("language", .text language), ("output", .text output)]
  | tooLong length =>
    [("length", .number length), ("limit", .number Transcript.lengthLimit)]
  | started | unusedTimeout _ => []

/-- The fields of an event. -/
def fields (e : Event) : List (String × Json) := ("message", .text e.message) :: e.details

/-- An event as a JSON record. -/
def toJson (e : Event) : Json :=
  .record [("level", .text e.level.name), ("fields", .record e.fields), ("target", .text e.target)]

end Event

end CalcSpeech.Log
