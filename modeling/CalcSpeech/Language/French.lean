import CalcSpeech.Language.Pack

/-!
# French

The words of spoken arithmetic in French, with common misspellings among the number words.
-/

namespace CalcSpeech

/-- The French number words. -/
def frenchNumbers : List (String × String) := [
  ("cent", "100"), ("cents", "100"), ("cinq", "5"), ("cinquante", "50"), ("cinque", "5"),
  ("deux", "2"), ("dix", "10"), ("douze", "12"), ("huit", "8"), ("huitante", "80"),
  ("mil", "1000"), ("mille", "1000"), ("neuf", "9"), ("nonante", "90"), ("octante", "80"),
  ("onze", "11"), ("quarante", "40"), ("quatorze", "14"), ("quatre", "4"), ("quatre vingt", "80"),
  ("quatre vingt dix", "90"), ("quatre vingt douze", "92"), ("quatre vingt onze", "91"),
  ("quatre vingt quatorze", "94"), ("quatre vingt quinze", "95"), ("quatre vingt seize", "96"),
  ("quatre vingt treize", "93"), ("quatre vingts", "80"), ("quinze", "15"), ("seize", "16"),
  ("sept", "7"), ("septante", "70"), ("six", "6"), ("soixante", "60"), ("soixante dix", "70"),
  ("soixante douze", "72"), ("soixante et onze", "71"), ("soixante onze", "71"),
  ("soixante quatorze", "74"), ("soixante quinze", "75"), ("soixante seize", "76"),
  ("soixante treize", "73"), ("treize", "13"), ("trente", "30"), ("trois", "3"), ("un", "1"),
  ("une", "1"), ("vingt", "20"), ("vingts", "20"), ("zero", "0"), ("zéro", "0")]

/-- The French word lists. -/
def frenchWords : WordList → List String
  | .numberConnectors => ["et"]
  | .decimalWords => ["virgule"]
  | .addition => ["plus", "ajouté à"]
  | .subtraction => ["moins"]
  | .multiplication => ["fois", "multiplié par", "x", "×"]
  | .division => ["divisé par", "sur", "÷"]
  | .percentOf => ["pour cent de", "pourcent de", "pour cent des", "pour cent du"]
  | .percentage => ["pour cent", "pourcent", "pourcentage"]
  | .power => ["à la puissance", "puissance", "exposant"]
  | .squared => ["au carré"]
  | .squareRoot => ["racine carrée de", "racine carrée", "racine de", "racine"]
  | .openParen => ["ouvrir la parenthèse", "ouvrez la parenthèse", "parenthèse ouvrante",
      "ouvrir parenthèse"]
  | .closeParen => ["fermer la parenthèse", "fermez la parenthèse", "parenthèse fermante",
      "fermer parenthèse"]
  | .ofWords => ["de", "du", "des"]

/-- The French phrases. -/
def frenchPhrases : PhraseKind → PhraseTemplate
  | .add => ⟨["ajoute", "ajouter", "ajoutez", "additionne", "additionner"],
      ["à", "a", "au", "aux"]⟩
  | .subtract => ⟨["soustrais", "soustraire", "soustrayez", "retire", "retirer", "retirez",
      "enlève", "enlever", "enlevez"], ["de", "du", "à"]⟩
  | .multiply => ⟨["multiplie", "multiplier", "multipliez"], ["par"]⟩
  | .divide => ⟨["divise", "diviser", "divisez"], ["par"]⟩

/-- The French language pack. -/
def french : LanguagePack where
  code := "fr"
  name := "Français"
  decimalMark := .comma
  numbers := frenchNumbers
  words := frenchWords
  phrases := frenchPhrases

end CalcSpeech
