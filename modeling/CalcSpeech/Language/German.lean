import CalcSpeech.Language.Pack

/-!
# German

The words of spoken arithmetic in German, with common misspellings among the number words.
-/

namespace CalcSpeech

/-- The German number words. -/
def germanNumbers : List (String × String) := [
  ("acht", "8"), ("achtzehn", "18"), ("achtzig", "80"), ("drei", "3"), ("dreihundert", "300"),
  ("dreissig", "30"), ("dreiundzwanzig", "23"), ("dreizehn", "13"), ("dreißig", "30"),
  ("ein", "1"), ("eine", "1"), ("einhundert", "100"), ("eins", "1"), ("eintausend", "1000"),
  ("einundzwanzig", "21"), ("elf", "11"), ("fuenf", "5"), ("fünf", "5"), ("fünfhundert", "500"),
  ("fünfundzwanzig", "25"), ("fünfzehn", "15"), ("fünfzig", "50"), ("hundert", "100"),
  ("neun", "9"), ("neunzehn", "19"), ("neunzig", "90"), ("null", "0"), ("sechs", "6"),
  ("sechzehn", "16"), ("sechzig", "60"), ("sieben", "7"), ("siebzehn", "17"), ("siebzig", "70"),
  ("tausend", "1000"), ("vier", "4"), ("vierundzwanzig", "24"), ("vierzehn", "14"),
  ("vierzig", "40"), ("zehn", "10"), ("zwanzig", "20"), ("zwei", "2"), ("zweihundert", "200"),
  ("zweiundzwanzig", "22"), ("zwo", "2"), ("zwoelf", "12"), ("zwölf", "12")]

/-- The German word lists. -/
def germanWords : WordList → List String
  | .numberConnectors => []
  | .decimalWords => ["komma"]
  | .addition => ["plus"]
  | .subtraction => ["minus", "weniger"]
  | .multiplication => ["mal", "multipliziert mit", "x", "×"]
  | .division => ["geteilt durch", "dividiert durch", "durch", "÷"]
  | .percentOf => ["prozent von"]
  | .percentage => ["prozent"]
  | .power => ["hoch", "zur potenz"]
  | .squared => ["zum quadrat"]
  | .squareRoot => ["quadratwurzel aus", "quadratwurzel von", "quadratwurzel", "wurzel aus",
      "wurzel von", "wurzel"]
  | .openParen => ["klammer auf"]
  | .closeParen => ["klammer zu"]
  | .ofWords => ["von"]

/-- The German phrases. -/
def germanPhrases : PhraseKind → PhraseTemplate
  | .add => ⟨["addiere", "addieren", "addier"], ["zu"]⟩
  | .subtract => ⟨["subtrahiere", "subtrahieren", "ziehe"], ["von"]⟩
  | .multiply => ⟨["multipliziere", "multiplizieren"], ["mit"]⟩
  | .divide => ⟨["dividiere", "dividieren", "teile"], ["durch"]⟩

/-- The German language pack. -/
def german : LanguagePack where
  code := "de"
  name := "Deutsch"
  decimalMark := .comma
  numbers := germanNumbers
  words := germanWords
  phrases := germanPhrases

end CalcSpeech
