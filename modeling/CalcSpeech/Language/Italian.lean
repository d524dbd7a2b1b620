import CalcSpeech.Language.Pack

/-!
# Italian

The words of spoken arithmetic in Italian, with common misspellings among the number words.
-/

namespace CalcSpeech

/-- The Italian number words. -/
def italianNumbers : List (String × String) := [
  ("cento", "100"), ("cinquanta", "50"), ("cinque", "5"), ("cinquecento", "500"),
  ("diciannove", "19"), ("diciassette", "17"), ("diciotto", "18"), ("dieci", "10"),
  ("dodici", "12"), ("due", "2"), ("duecento", "200"), ("duemila", "2000"), ("mille", "1000"),
  ("novanta", "90"), ("nove", "9"), ("ottanta", "80"), ("otto", "8"), ("quaranta", "40"),
  ("quattordici", "14"), ("quattro", "4"), ("quindici", "15"), ("sedici", "16"), ("sei", "6"),
  ("sessanta", "60"), ("settanta", "70"), ("sette", "7"), ("tre", "3"), ("trecento", "300"),
  ("tredici", "13"), ("tremila", "3000"), ("trenta", "30"), ("un", "1"), ("una", "1"),
  ("undici", "11"), ("uno", "1"), ("venti", "20"), ("venticinque", "25"), ("ventidue", "22"),
  ("ventitre", "23"), ("ventitré", "23"), ("ventuno", "21"), ("zero", "0")]

/-- The Italian word lists. -/
def italianWords : WordList → List String
  | .numberConnectors => []
  | .decimalWords => ["virgola"]
  | .addition => ["più", "piu"]
  | .subtraction => ["meno"]
  | .multiplication => ["moltiplicato per", "volte", "x", "×"]
  | .division => ["diviso per", "diviso", "÷"]
  | .percentOf => ["per cento di", "percento di", "per cento del"]
  | .percentage => ["per cento", "percento", "percentuale"]
  | .power => ["elevato alla", "elevato a", "alla potenza"]
  | .squared => ["al quadrato"]
  | .squareRoot => ["radice quadrata di", "radice quadrata", "radice di"]
  | .openParen => ["apri parentesi", "aperta parentesi"]
  | .closeParen => ["chiudi parentesi", "chiusa parentesi"]
  | .ofWords => ["di", "del", "della"]

/-- The Italian phrases. -/
def italianPhrases : PhraseKind → PhraseTemplate
  | .add => ⟨["aggiungi", "aggiungere", "somma", "sommare"], ["a", "al", "alla"]⟩
  | .subtract => ⟨["sottrai", "sottrarre", "togli", "togliere"], ["da", "dal", "dalla"]⟩
  | .multiply => ⟨["moltiplica", "moltiplicare"], ["per"]⟩
  | .divide => ⟨["dividi", "dividere"], ["per"]⟩

/-- The Italian language pack. -/
def italian : LanguagePack where
  code := "it"
  name := "Italiano"
  decimalMark := .comma
  numbers := italianNumbers
  words := italianWords
  phrases := italianPhrases

end CalcSpeech
