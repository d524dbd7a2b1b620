import CalcSpeech.Language.Pack

/-!
# Portuguese

The words of spoken arithmetic in Portuguese, with common misspellings among the number words.
-/

namespace CalcSpeech

/-- The Portuguese number words. -/
def portugueseNumbers : List (String × String) := [
  ("catorze", "14"), ("cem", "100"), ("cento", "100"), ("cinco", "5"), ("cincoenta", "50"),
  ("cinquenta", "50"), ("dez", "10"), ("dezanove", "19"), ("dezasseis", "16"),
  ("dezassete", "17"), ("dezenove", "19"), ("dezesseis", "16"), ("dezessete", "17"),
  ("dezoito", "18"), ("dois", "2"), ("doze", "12"), ("duas", "2"), ("duzentos", "200"),
  ("mil", "1000"), ("nove", "9"), ("novecentos", "900"), ("noventa", "90"), ("oitenta", "80"),
  ("oito", "8"), ("oitocentos", "800"), ("onze", "11"), ("quarenta", "40"), ("quatorze", "14"),
  ("quatro", "4"), ("quatrocentos", "400"), ("quinhentos", "500"), ("quinze", "15"),
  ("seis", "6"), ("seiscentos", "600"), ("sessenta", "60"), ("sete", "7"), ("setecentos", "700"),
  ("setenta", "70"), ("tres", "3"), ("treze", "13"), ("trezentos", "300"), ("trinta", "30"),
  ("três", "3"), ("um", "1"), ("uma", "1"), ("vinte", "20"), ("zero", "0")]

/-- The Portuguese word lists. -/
def portugueseWords : WordList → List String
  | .numberConnectors => ["e"]
  | .decimalWords => ["vírgula", "virgula"]
  | .addition => ["mais"]
  | .subtraction => ["menos"]
  | .multiplication => ["vezes", "multiplicado por", "x", "×"]
  | .division => ["dividido por", "÷"]
  | .percentOf => ["por cento de", "por cento do", "por cento da"]
  | .percentage => ["por cento", "porcento"]
  | .power => ["elevado à", "elevado a", "à potência"]
  | .squared => ["ao quadrado"]
  | .squareRoot => ["raiz quadrada de", "raiz quadrada", "raiz de"]
  | .openParen => ["abre parênteses", "abrir parênteses", "abre parenteses"]
  | .closeParen => ["fecha parênteses", "fechar parênteses", "fecha parenteses"]
  | .ofWords => ["de", "do", "da", "dos", "das"]

/-- The Portuguese phrases. -/
def portuguesePhrases : PhraseKind → PhraseTemplate
  | .add => ⟨["adicione", "adiciona", "adicionar", "some", "soma", "somar"], ["a", "ao", "à"]⟩
  | .subtract => ⟨["subtraia", "subtrai", "subtrair", "tire", "tira"], ["de", "do", "da"]⟩
  | .multiply => ⟨["multiplique", "multiplica", "multiplicar"], ["por"]⟩
  | .divide => ⟨["divida", "divide", "dividir"], ["por"]⟩

/-- The Portuguese language pack. -/
def portuguese : LanguagePack where
  code := "pt"
  name := "Português"
  decimalMark := .comma
  numbers := portugueseNumbers
  words := portugueseWords
  phrases := portuguesePhrases

end CalcSpeech
