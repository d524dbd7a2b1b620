import CalcSpeech.Failure
import CalcSpeech.Json.Decode

/-!
# Requests for an expression

A request gives a transcript and, if it likes, the locale it is spoken in. A transcript of nothing
but blanks is refused.
-/

namespace CalcSpeech.Service

open Json

/-- A request for the expression of a transcript. -/
structure NormalizeRequest where
  transcript : String
  language : Option String := none
  deriving DecidableEq, Repr

namespace NormalizeRequest

/-- The fields of a request. -/
def fields : Fields NormalizeRequest :=
  [("transcript", fun r d => do return { r with transcript := ← d.asText }),
    ("language", fun r d => do return { r with language := ← d.asTextOrNull })]

/-- Reads a request. -/
def decode : Draft → Except Fault NormalizeRequest := fields.decode ["transcript"] ⟨"", none⟩

/-- Refuses a request without a transcript. -/
def validate (r : NormalizeRequest) : Except Failure NormalizeRequest :=
  if Text.isAllBlank r.transcript.toList then .error .emptyTranscript else .ok r

end NormalizeRequest

end CalcSpeech.Service
