import CalcSpeech.FractionPhrase
import CalcSpeech.NumberWord.Rewrite
import CalcSpeech.NumeralMark
import CalcSpeech.OperatorWord
import CalcSpeech.ScaleNumber

/-!
# Lexicons

A lexicon is a language pack made ready for reading: every pattern that the pack's words give rise
to. Where the pack has no words for something, the pattern is absent and nothing is rewritten.
-/

namespace CalcSpeech

/-- A language pack with its patterns. -/
structure Lexicon where
  pack : LanguagePack
  numberWords : Option NumberWord.Reader
  scaledSum : Pattern
  numericFraction : Option Pattern
  spokenFraction : Option Pattern
  decimalPoint : Option Pattern
  percent : PercentPhrase.Patterns
  operators : OperatorWord.Patterns

/-- The lexicon of a pack. It lacks only where a number word has too large a value. -/
def Lexicon.ofPack (pack : LanguagePack) : Except PackFault Lexicon := do
  let numberWords ← NumberWord.Reader.ofPack? pack
  let ofWord := Vocabulary.pattern? (pack.words .ofWords)
  return {
    pack, numberWords
    scaledSum := ScaleNumber.scaledSum (PercentPhrase.sign pack)
    numericFraction := ofWord.map FractionPhrase.numeric
    spokenFraction := ofWord.map FractionPhrase.spoken
    decimalPoint := NumeralMark.spokenPoint? pack
    percent := PercentPhrase.Patterns.ofPack pack
    operators := OperatorWord.Patterns.ofPack pack }

end CalcSpeech
