import CalcSpeech.Language.Pack

/-!
# English

The words of spoken arithmetic in English, with common misspellings among the number words.
-/

namespace CalcSpeech

/-- The English number words. -/
def englishNumbers : List (String × String) := [
  ("eight", "8"), ("eighteen", "18"), ("eighty", "80"), ("eleven", "11"), ("fifteen", "15"),
  ("fifty", "50"), ("five", "5"), ("forty", "40"), ("four", "4"), ("fourteen", "14"),
  ("fourty", "40"), ("hundred", "100"), ("nine", "9"), ("nineteen", "19"), ("ninety", "90"),
  ("ninteen", "19"), ("one", "1"), ("seven", "7"), ("seventeen", "17"), ("seventy", "70"),
  ("six", "6"), ("sixteen", "16"), ("sixty", "60"), ("ten", "10"), ("thirteen", "13"),
  ("thirty", "30"), ("thousand", "1000"), ("three", "3"), ("twelve", "12"), ("twenty", "20"),
  ("two", "2"), ("zero", "0")]

/-- The English word lists. -/
def englishWords : WordList → List String
  | .numberConnectors => ["and"]
  | .decimalWords => ["point", "dot"]
  | .addition => ["plus", "add", "added to"]
  | .subtraction => ["minus", "less", "take away", "subtract"]
  | .multiplication => ["times", "multiplied by", "multiply by", "multiply", "x", "×"]
  | .division => ["divided by", "divide by", "divide", "over", "÷"]
  | .percentOf => ["percent of", "per cent of"]
  | .percentage => ["percent", "per cent", "percentage"]
  | .power => ["to the power of", "to the power", "raised to the power of", "raised to", "power"]
  | .squared => ["squared"]
  | .squareRoot => ["square root of", "square root", "root of"]
  | .openParen => ["open parenthesis", "open parentheses", "open bracket", "left parenthesis"]
  | .closeParen => ["close parenthesis", "close parentheses", "close bracket",
      "right parenthesis"]
  | .ofWords => ["of"]

/-- The English phrases. -/
def englishPhrases : PhraseKind → PhraseTemplate
  | .add => ⟨["add"], ["to"]⟩
  | .subtract => ⟨["subtract", "take"], ["from"]⟩
  | .multiply => ⟨["multiply"], ["by", "with"]⟩
  | .divide => ⟨["divide"], ["by"]⟩

/-- The English language pack. -/
def english : LanguagePack where
  code := "en"
  name := "English"
  decimalMark := .period
  numbers := englishNumbers
  words := englishWords
  phrases := englishPhrases

end CalcSpeech
