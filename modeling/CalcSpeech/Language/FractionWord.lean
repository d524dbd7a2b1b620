import CalcSpeech.Vocabulary

/-!
# Fraction words

Words such as `fourths` that name a denominator. One table serves every language; plurals,
spellings without accents and common mishearings are listed too.
-/

namespace CalcSpeech

/-- The English fraction words. -/
def englishFractionWords : List (String × Nat) := [
  ("half", 2), ("halves", 2), ("halfs", 2), ("third", 3), ("thirds", 3), ("fourth", 4),
  ("fourths", 4), ("forth", 4), ("forths", 4), ("quarter", 4), ("quarters", 4), ("fifth", 5),
  ("fifths", 5), ("sixth", 6), ("sixths", 6), ("seventh", 7), ("sevenths", 7), ("eighth", 8),
  ("eighths", 8), ("eights", 8), ("ninth", 9), ("ninths", 9), ("nineth", 9), ("nineths", 9),
  ("tenth", 10), ("tenths", 10)]

/-- The French fraction words. -/
def frenchFractionWords : List (String × Nat) := [
  ("demi", 2), ("demis", 2), ("moitié", 2), ("moitie", 2), ("tiers", 3), ("quart", 4),
  ("quarts", 4), ("cinquième", 5), ("cinquièmes", 5), ("cinquieme", 5), ("sixième", 6),
  ("sixièmes", 6), ("septième", 7), ("septièmes", 7), ("huitième", 8), ("huitièmes", 8),
  ("neuvième", 9), ("neuvièmes", 9), ("dixième", 10), ("dixièmes", 10)]

/-- The Spanish fraction words. -/
def spanishFractionWords : List (String × Nat) := [
  ("medio", 2), ("medios", 2), ("tercio", 3), ("tercios", 3), ("cuarto", 4), ("cuartos", 4),
  ("quinto", 5), ("quintos", 5), ("sexto", 6), ("sextos", 6), ("séptimo", 7), ("séptimos", 7),
  ("septimo", 7), ("octavo", 8), ("octavos", 8), ("noveno", 9), ("novenos", 9), ("décimo", 10),
  ("décimos", 10), ("decimo", 10), ("decimos", 10)]

/-- The Portuguese fraction words. -/
def portugueseFractionWords : List (String × Nat) := [
  ("meio", 2), ("meios", 2), ("terço", 3), ("terços", 3), ("terco", 3), ("tercos", 3),
  ("quarto", 4), ("quartos", 4), ("sétimo", 7), ("sétimos", 7), ("oitavo", 8), ("oitavos", 8),
  ("nono", 9), ("nonos", 9)]

/-- The German fraction words. -/
def germanFractionWords : List (String × Nat) := [
  ("halb", 2), ("halbe", 2), ("halbes", 2), ("drittel", 3), ("viertel", 4), ("fünftel", 5),
  ("fuenftel", 5), ("sechstel", 6), ("siebtel", 7), ("achtel", 8), ("neuntel", 9),
  ("zehntel", 10)]

/-- The Italian fraction words. -/
def italianFractionWords : List (String × Nat) := [
  ("mezzo", 2), ("mezzi", 2), ("terzo", 3), ("terzi", 3), ("quarti", 4), ("quinti", 5),
  ("sesto", 6), ("sesti", 6), ("settimo", 7), ("settimi", 7), ("ottavo", 8), ("ottavi", 8),
  ("noni", 9), ("decimi", 10)]

/-- The fraction words of every language with their denominators. -/
def fractionWords : List (String × Nat) :=
  englishFractionWords ++ frenchFractionWords ++ spanishFractionWords ++
    portugueseFractionWords ++ germanFractionWords ++ italianFractionWords

/-- The denominator of a fraction word, in any case. -/
def fractionDenominator? (word : List Char) : Option Nat :=
  let key := Unicode.lowercase (Text.trim word)
  (fractionWords.find? (·.1.toList == key)).map (·.2)

/-- The pattern for a fraction word. -/
def fractionWordPattern : Pattern := Vocabulary.pattern (fractionWords.map (·.1))

end CalcSpeech
