import CalcSpeech.Json.Basic
import CalcSpeech.Normalizer
import CalcSpeech.Service.MediaType
import CalcSpeech.Service.Request

/-!
# The service

The service answers three paths: the expression for a transcript, the list of languages, and the
state of its health. Every answer may be read from any origin, and every answer but the one to a
preflight request carries the identifier of its request.
-/

namespace CalcSpeech.Service

/-- A message to the service. -/
structure Message where
  method : String
  path : String
  headers : List (String × String) := []
  body : String := ""

/-- The identifier of a request: the client's own, or a fresh one. -/
inductive RequestId where
  | own (id : String)
  | fresh
  deriving DecidableEq, Repr

/-- An answer; a body that is no JSON is left out. -/
structure Answer where
  status : Nat
  body : Option Json := none
  requestId : Option RequestId := none
  allowedOrigin : String := "*"

/-- The service with what it was started with. -/
structure State where
  normalizer : Normalizer
  defaultLanguage : String

/-- The value of a header, whose name is in small letters here and in any case there. -/
def Message.header? (m : Message) (name : String) : Option String :=
  (m.headers.find? fun h => String.ofList (h.1.toList.map Char.toLower) == name).map (·.2)

/-- Whether a header value can be read as text. -/
def isReadable (value : String) : Bool :=
  value.toList.all fun c => (32 ≤ c.toNat && c.toNat < 127) || c == '\t'

/-- The path of a message without its query. -/
def Message.route (m : Message) : String :=
  String.ofList (m.path.toList.takeWhile fun c => c != '?' && c != '#')

/-- Whether the body of a message is declared as JSON. -/
def Message.declaresJson (m : Message) : Bool :=
  (((m.header? "content-type").filter isReadable).bind MediaType.ofText?).any (·.isJson)

/-- The identifier of a message. -/
def Message.requestId (m : Message) : RequestId :=
  match (m.header? "x-request-id").filter fun id => isReadable id && id != "" with
  | some id => .own id
  | none => .fresh

/-- The status of a failure: the client's fault or the server's. -/
def statusOf : Failure → Nat
  | .emptyTranscript | .invalidRequest _ | .unsupportedLanguage _ => 400
  | _ => 500

/-- What a client is told about a failure. -/
def failureText (failure : Failure) : String :=
  if statusOf failure = 400 then failure.message else "Internal server error"

/-- The answer to a failed request. -/
def failureAnswer (failure : Failure) : Answer where
  status := statusOf failure
  body := some (.record [("status", .text "error"), ("error", .text (failureText failure))])

/-- The expression for the transcript of a request, and the language it was read in. -/
def State.normalize (s : State) (request : NormalizeRequest) :
    Except Failure (String × String × State) := do
  let request ← request.validate
  let requested := request.language.getD s.defaultLanguage
  let language := s.normalizer.registry.resolve requested s.defaultLanguage
  let (expression, normalizer) ← s.normalizer.normalize request.transcript language
  return (language, expression, { s with normalizer })

/-- Answers a request for an expression. -/
def State.answerNormalize (s : State) (m : Message) : Answer × State :=
  if !m.declaresJson then ({ status := 415 }, s)
  else match Json.decodePrefix NormalizeRequest.decode m.body with
    | .error .malformed => ({ status := 400 }, s)
    | .error .unfit => ({ status := 422 }, s)
    | .ok request =>
      match s.normalize request with
      | .error failure => (failureAnswer failure, s)
      | .ok (language, expression, s) =>
        ({ status := 200
           body := some (.record [("status", .text "success"), ("language", .text language),
             ("normalized", .text expression)]) }, s)

/-- What the service says about a language. -/
def languageJson (pack : LanguagePack) : Json :=
  .record [("code", .text pack.code), ("name", .text pack.name),
    ("decimal_separator", .text pack.decimalMark.name)]

/-- The list of languages. -/
def State.languages (s : State) : Json :=
  let registry := s.normalizer.registry
  .record [("default_language", .text s.defaultLanguage),
    ("languages", .list ((registry.codes.filterMap registry.get?).map (languageJson ·.pack)))]

/-- The state of the service's health. -/
def health (version : String) : Json :=
  .record [("status", .text "ok"), ("version", .text version)]

/-- Answers a question for a JSON value; a question for the headers alone gets no body. -/
def answerGet (m : Message) (value : Json) : Answer :=
  if m.method = "GET" then { status := 200, body := some value }
  else if m.method = "HEAD" then { status := 200 }
  else { status := 405 }

/-- Answers a message by its path and method. -/
def State.route (version : String) (s : State) (m : Message) : Answer × State :=
  if m.route = "/normalize" then
    if m.method = "POST" then s.answerNormalize m else ({ status := 405 }, s)
  else if m.route = "/languages" then (answerGet m s.languages, s)
  else if m.route = "/health" then (answerGet m (health version), s)
  else ({ status := 404 }, s)

/-- Answers a message. A preflight request is answered at once. -/
def State.answer (version : String) (s : State) (m : Message) : Answer × State :=
  if m.method = "OPTIONS" then ({ status := 200 }, s)
  else
    let (answer, s) := s.route version m
    ({ answer with requestId := some m.requestId }, s)

end CalcSpeech.Service
