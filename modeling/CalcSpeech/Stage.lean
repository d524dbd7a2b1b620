import CalcSpeech.Expression
import CalcSpeech.Lexicon
import CalcSpeech.Transcript

/-!
# Stages of reading

A transcript becomes an expression in seven stages, each of which sees only what the one before
has left. Their order settles what a word means where several stages could take it.
-/

namespace CalcSpeech

/-- A stage of reading. -/
inductive Stage where
  | numberWords
  | scaleNumbers
  | fractions
  | numeralMarks
  | percentages
  | operators
  | cleanup
  deriving DecidableEq, Repr

namespace Stage

/-- The stages in the order in which a transcript goes through them. -/
def all : List Stage :=
  [numberWords, scaleNumbers, fractions, numeralMarks, percentages, operators, cleanup]

/-- The name under which a stage is logged. -/
def name : Stage → String
  | numberWords => "number_words"
  | scaleNumbers => "compound_numbers"
  | fractions => "fractions"
  | numeralMarks => "decimals"
  | percentages => "percentages"
  | operators => "operators"
  | cleanup => "cleanup"

/-- The stage of a name. -/
def ofName? (name : String) : Option Stage := all.find? (·.name == name)

/-- What a stage makes of a text. -/
def rewrite (stage : Stage) (lexicon : Lexicon) (text : List Char) : List Char :=
  match stage with
  | numberWords => NumberWord.rewrite lexicon.numberWords text
  | scaleNumbers => ScaleNumber.rewrite lexicon.pack.decimalMark lexicon.scaledSum text
  | fractions => FractionPhrase.rewrite lexicon.numericFraction lexicon.spokenFraction text
  | numeralMarks => NumeralMark.rewrite lexicon.pack.decimalMark lexicon.decimalPoint text
  | percentages => PercentPhrase.rewrite lexicon.percent text
  | operators => OperatorWord.rewrite lexicon.operators text
  | cleanup => Expression.rewrite lexicon.percent text

/-- What a row of stages makes of a text. -/
def rewriteAll (stages : List Stage) (lexicon : Lexicon) (text : List Char) : List Char :=
  stages.foldl (fun text stage => stage.rewrite lexicon text) text

/-- The text after each of a row of stages. -/
def trace (lexicon : Lexicon) : List Stage → List Char → List (Stage × List Char)
  | [], _ => []
  | stage :: rest, text =>
    let next := stage.rewrite lexicon text
    (stage, next) :: trace lexicon rest next

end Stage

/-- The expression for a transcript. -/
def Lexicon.normalize (lexicon : Lexicon) (transcript : List Char) : List Char :=
  if Transcript.isTooLong transcript then Transcript.truncated transcript
  else Stage.rewriteAll Stage.all lexicon (Transcript.prepare transcript)

/-- The expression for a transcript, on strings. -/
def Lexicon.normalizeString (lexicon : Lexicon) (transcript : String) : String :=
  String.ofList (lexicon.normalize transcript.toList)

end CalcSpeech
