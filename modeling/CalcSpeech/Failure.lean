import CalcSpeech.Language.Pack

/-!
# Failures

The ways in which a request cannot be met, with their wording.
-/

namespace CalcSpeech

/-- Why a request could not be met. -/
inductive Failure where
  | io (message : String)
  | unsupportedLanguage (code : String)
  | unusablePattern (language message : String)
  | languagePack (fault : PackFault)
  | invalidRequest (message : String)
  | emptyTranscript
  deriving DecidableEq, Repr

namespace Failure

/-- The wording of a failure. -/
def message : Failure → String
  | io message => s!"I/O error: {message}"
  | unsupportedLanguage code => s!"Unsupported language: {code}"
  | unusablePattern language message => s!"Pattern compile error for '{language}': {message}"
  | languagePack fault => s!"Language pack error: {fault.message}"
  | invalidRequest message => s!"Invalid request: {message}"
  | emptyTranscript => "Transcript cannot be empty"

end Failure

end CalcSpeech
