import CalcSpeech.Decimal
import CalcSpeech.Language.FractionWord
import CalcSpeech.Language.ScaleWord

/-!
# Numbers with a scale word

`2.5 million` becomes `2500000`, and `1 million 250,000` becomes `1250000`. A number behind the
scale word is added only when it stands for itself: one that begins a fraction, a decimal, a
percentage or another scaled number is kept apart.
-/

namespace CalcSpeech.ScaleNumber

open Pattern

/-- Digits in groups of three, or plain digits. -/
def addend : Pattern :=
  oneOf [
    inOrder [upToThree asciiDigit, atLeastOne (inOrder [mark, times 3 asciiDigit])],
    atLeastOne asciiDigit]

/-- What may follow a number so that it belongs to something else, where `percent` is the pattern
for a percent sign or word. -/
def continuation (percent : Pattern) : Pattern :=
  oneOf [
    just '/',
    inOrder [mark, asciiDigit],
    inOrder [loose, percent],
    inOrder [gap, scalePattern],
    inOrder [gap, fractionWordPattern]]

/-- A number (1) and a scale word (2). -/
def scaled : Pattern := inOrder [group 1 (marked asciiDigit), gap, group 2 scalePattern]

/-- A number (1), a scale word (2), a second number (3) and what it belongs to, if anything (4). -/
def scaledSum (percent : Pattern) : Pattern :=
  inOrder [group 1 (marked asciiDigit), gap, group 2 scalePattern, gap, group 3 addend,
    optional (group 4 (continuation percent))]

/-- Sums are written only below this bound. -/
def sumLimit : Nat := Nat.pow 2 128

/-- The value of a number followed by a scale word. -/
def value? (mark : DecimalMark) (numeral scale : List Char) : Option Decimal := do
  let exponent ← scaleExponent? scale
  let decimal ← Decimal.ofNumeral? mark numeral
  return decimal.shift exponent

/-- Rewrites a scaled number with a second number behind it. -/
def rewriteSum (mark : DecimalMark) (m : Match) : List Char :=
  match value? mark (m.group 1) (m.group 2) with
  | none => m.text
  | some value =>
    match m.group? 4 with
    | some continuation => value.text ++ ' ' :: m.group 3 ++ continuation
    | none =>
      let second := Nat.ofDigitChars 10 ((m.group 3).filter Char.isDigit) 0
      if value.whole + second < sumLimit then (value.addWhole second).text else m.text

/-- Rewrites a scaled number that stands alone. -/
def rewriteScaled (mark : DecimalMark) (m : Match) : List Char :=
  match value? mark (m.group 1) (m.group 2) with
  | none => m.text
  | some value => value.text

/-- Writes the scaled numbers of a text as digits, sums first. -/
def rewrite (mark : DecimalMark) (sums : Pattern) (text : List Char) : List Char :=
  scaled.rewrite (rewriteScaled mark) (sums.rewrite (rewriteSum mark) text)

end CalcSpeech.ScaleNumber
