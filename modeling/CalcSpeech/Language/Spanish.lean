import CalcSpeech.Language.Pack

/-!
# Spanish

The words of spoken arithmetic in Spanish, with common misspellings among the number words.
-/

namespace CalcSpeech

/-- The Spanish number words. -/
def spanishNumbers : List (String × String) := [
  ("catorce", "14"), ("cero", "0"), ("cien", "100"), ("ciento", "100"), ("cinco", "5"),
  ("cincuenta", "50"), ("cuarenta", "40"), ("cuatro", "4"), ("cuatrocientos", "400"),
  ("diecinueve", "19"), ("dieciocho", "18"), ("dieciseis", "16"), ("diecisiete", "17"),
  ("dieciséis", "16"), ("dies", "10"), ("diez", "10"), ("doce", "12"), ("dos", "2"),
  ("doscientos", "200"), ("mil", "1000"), ("novecientos", "900"), ("noventa", "90"),
  ("nueve", "9"), ("ochenta", "80"), ("ocho", "8"), ("ochocientos", "800"), ("once", "11"),
  ("quince", "15"), ("quinientos", "500"), ("seis", "6"), ("seiscientos", "600"),
  ("sesenta", "60"), ("setecientos", "700"), ("setenta", "70"), ("siete", "7"), ("trece", "13"),
  ("treinta", "30"), ("tres", "3"), ("trescientos", "300"), ("un", "1"), ("una", "1"),
  ("uno", "1"), ("veinte", "20"), ("veinticinco", "25"), ("veinticuatro", "24"),
  ("veintidos", "22"), ("veintidós", "22"), ("veintinueve", "29"), ("veintiocho", "28"),
  ("veintiseis", "26"), ("veintisiete", "27"), ("veintiséis", "26"), ("veintitres", "23"),
  ("veintitrés", "23"), ("veintiuno", "21")]

/-- The Spanish word lists. -/
def spanishWords : WordList → List String
  | .numberConnectors => ["y"]
  | .decimalWords => ["coma", "punto"]
  | .addition => ["más", "mas"]
  | .subtraction => ["menos"]
  | .multiplication => ["multiplicado por", "veces", "x", "×"]
  | .division => ["dividido por", "dividido entre", "entre", "÷"]
  | .percentOf => ["por ciento de", "porciento de", "por ciento del"]
  | .percentage => ["por ciento", "porciento", "porcentaje"]
  | .power => ["elevado a la", "elevado a", "a la potencia", "potencia"]
  | .squared => ["al cuadrado"]
  | .squareRoot => ["raíz cuadrada de", "raiz cuadrada de", "raíz cuadrada", "raiz cuadrada",
      "raíz de", "raiz de"]
  | .openParen => ["abre paréntesis", "abrir paréntesis", "abre parentesis"]
  | .closeParen => ["cierra paréntesis", "cerrar paréntesis", "cierra parentesis"]
  | .ofWords => ["de", "del"]

/-- The Spanish phrases. -/
def spanishPhrases : PhraseKind → PhraseTemplate
  | .add => ⟨["suma", "sumar", "añade", "añadir", "agrega", "agregar"], ["a", "al"]⟩
  | .subtract => ⟨["resta", "restar", "quita", "quitar"], ["de", "del", "a"]⟩
  | .multiply => ⟨["multiplica", "multiplicar"], ["por"]⟩
  | .divide => ⟨["divide", "dividir"], ["por", "entre"]⟩

/-- The Spanish language pack. -/
def spanish : LanguagePack where
  code := "es"
  name := "Español"
  decimalMark := .comma
  numbers := spanishNumbers
  words := spanishWords
  phrases := spanishPhrases

end CalcSpeech
