import CalcSpeech.Language.FractionWord
import CalcSpeech.Unicode.Letter

/-!
# Fractions of a quantity

`1/2 of 80` becomes `((1/2) * 80)`, and `3 fourths of 100` becomes `((3/4) * 100)`. A word that is
no fraction word leaves its phrase as it is.
-/

namespace CalcSpeech.FractionPhrase

open Pattern

/-- A fraction in digits (1, 2) of a quantity (3). -/
def numeric (ofWord : Pattern) : Pattern :=
  inOrder [group 1 (atLeastOne digit), loose, just '/', loose, group 2 (atLeastOne digit), gap,
    ofWord, gap, group 3 (marked digit)]

/-- A count (1) of a fraction word (2) of a quantity (3). -/
def spoken (ofWord : Pattern) : Pattern :=
  inOrder [group 1 (atLeastOne digit), gap, group 2 (atLeastOne (char Unicode.isLetter)), gap,
    ofWord, gap, group 3 (marked digit)]

/-- The formula for a fraction of a quantity. -/
def formula (numerator denominator quantity : List Char) : List Char :=
  "((".toList ++ numerator ++ '/' :: denominator ++ ") * ".toList ++ quantity ++ [')']

/-- Rewrites a fraction in digits. -/
def rewriteNumeric (m : Match) : List Char := formula (m.group 1) (m.group 2) (m.group 3)

/-- Rewrites a fraction with a fraction word. -/
def rewriteSpoken (m : Match) : List Char :=
  match fractionDenominator? (m.group 2) with
  | some denominator => formula (m.group 1) (Nat.toDigits 10 denominator) (m.group 3)
  | none => m.text

/-- Writes the fractions of quantities in a text as formulas. -/
def rewrite (numeric spoken : Option Pattern) (text : List Char) : List Char :=
  rewrite? spoken rewriteSpoken (rewrite? numeric rewriteNumeric text)

end CalcSpeech.FractionPhrase
