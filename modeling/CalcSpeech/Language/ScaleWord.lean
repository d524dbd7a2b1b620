import CalcSpeech.Vocabulary

/-!
# Scale words

Words such as `million` that multiply the number before them by a power of ten. One table serves
every language: the word decides the value, so that `billion` is a thousand millions while
`billón` is a million millions.
-/

namespace CalcSpeech

/-- The scale words with their powers of ten. -/
def scaleWords : List (String × Nat) := [
  ("million", 6), ("millions", 6), ("millionen", 6), ("millón", 6), ("millon", 6),
  ("millones", 6), ("milhão", 6), ("milhao", 6), ("milhões", 6), ("milhoes", 6), ("milione", 6),
  ("milioni", 6), ("milliard", 6), ("milliards", 6), ("milliarde", 6), ("milliarden", 6),
  ("billion", 9), ("billions", 9), ("mil millones", 9), ("bilhão", 9), ("bilhao", 9),
  ("bilhões", 9), ("bilhoes", 9), ("miliardo", 9), ("miliardi", 9), ("billón", 12),
  ("billon", 12), ("billones", 12), ("trillion", 12), ("trillions", 12), ("trilhão", 12),
  ("trilhao", 12), ("trilhões", 12), ("trilhoes", 12), ("trillione", 12), ("trillioni", 12)]

/-- The power of ten of a scale word, in any case and spacing. -/
def scaleExponent? (word : List Char) : Option Nat :=
  let key := Unicode.lowercase (Text.collapse word)
  (scaleWords.find? (·.1.toList == key)).map (·.2)

/-- The scale phrases of more than one word. -/
def multiWordScales : List String := (scaleWords.map (·.1)).filter (·.toList.contains ' ')

/-- The pattern for a scale word. -/
def scalePattern : Pattern := Vocabulary.pattern (scaleWords.map (·.1))

end CalcSpeech
