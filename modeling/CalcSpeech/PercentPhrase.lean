import CalcSpeech.Language.Pack
import CalcSpeech.Vocabulary

/-!
# Percentages

Five phrases with a percentage become formulas:

| Phrase              | Formula                 |
|---------------------|-------------------------|
| add X% to Y         | `(Y * (1 + X / 100))`   |
| subtract X% from Y  | `(Y * (1 - X / 100))`   |
| X% of Y             | `(Y * X / 100)`         |
| X + Y%              | `(X * (1 + Y / 100))`   |
| X - Y%              | `(X * (1 - Y / 100))`   |

The phrases with a verb come first: in some languages their connective is also the `of` of a
percentage.
-/

namespace CalcSpeech.PercentPhrase

open Pattern

/-- The patterns of a language for the five phrases, each with its operands as 1 and 2. -/
structure Patterns where
  ofQuantity : Option Pattern
  added : Option Pattern
  subtracted : Option Pattern
  plus : Option Pattern
  minus : Option Pattern

/-- A percent sign or a word for it. -/
def sign (pack : LanguagePack) : Pattern := Vocabulary.pattern ("%" :: pack.words .percentage)

/-- A verb, a percentage, a connective and a quantity. -/
def verbPhrase? (percent : Pattern) (template : PhraseTemplate) : Option Pattern := do
  let verb ← Vocabulary.pattern? template.verbs
  let connective ← Vocabulary.pattern? template.connectives
  return inOrder [verb, gap, group 1 operand, loose, percent, gap, connective, gap,
    group 2 operand]

/-- A quantity, a word for the operation, and a percentage. -/
def signPhrase (percent operation : Pattern) : Pattern :=
  inOrder [group 1 operand, loose, operation, loose, group 2 operand, loose, percent]

/-- A percentage of a quantity; a percent sign behind the quantity is taken along. -/
def quantityPhrase (percent ofWord : Pattern) : Pattern :=
  inOrder [group 1 operand, loose, percent, gap, ofWord, gap, group 2 operand,
    optional (inOrder [loose, just '%'])]

/-- The patterns for a language. -/
def Patterns.ofPack (pack : LanguagePack) : Patterns :=
  let percent := sign pack
  { ofQuantity := (Vocabulary.pattern? (pack.words .ofWords)).map (quantityPhrase percent)
    added := verbPhrase? percent (pack.phrases .add)
    subtracted := verbPhrase? percent (pack.phrases .subtract)
    plus := some (signPhrase percent (Vocabulary.pattern ("+" :: pack.words .addition)))
    minus := some (signPhrase percent (Vocabulary.pattern ("-" :: pack.words .subtraction))) }

/-- An operand without blanks and with a period as its decimal point. -/
def plainOperand (numeral : List Char) : List Char :=
  (numeral.filter (!Unicode.isBlank ·)).map fun c => if c = ',' then '.' else c

/-- `(base * (1 ± rate / 100))` -/
def changedBy (sign : Char) (base rate : List Char) : List Char :=
  '(' :: base ++ " * (1 ".toList ++ sign :: ' ' :: rate ++ " / 100))".toList

/-- `(base * rate / 100)` -/
def shareOf (base rate : List Char) : List Char :=
  '(' :: base ++ " * ".toList ++ rate ++ " / 100)".toList

/-- Rewrites each match of a pattern by what is made of its two operands. -/
def rewriteOperands (p : Option Pattern) (formula : List Char → List Char → List Char) :
    List Char → List Char :=
  rewrite? p fun m => formula (plainOperand (m.group 1)) (plainOperand (m.group 2))

/-- Writes a quantity plus or minus a percentage as a formula. -/
def rewritePlusMinus (p : Patterns) (text : List Char) : List Char :=
  rewriteOperands p.minus (changedBy '-') (rewriteOperands p.plus (changedBy '+') text)

/-- Writes the five phrases with a percentage as formulas. -/
def rewrite (p : Patterns) (text : List Char) : List Char :=
  let text := rewriteOperands p.added (fun rate base => changedBy '+' base rate) text
  let text := rewriteOperands p.subtracted (fun rate base => changedBy '-' base rate) text
  let text := rewriteOperands p.ofQuantity (fun rate base => shareOf base rate) text
  rewritePlusMinus p text

end CalcSpeech.PercentPhrase
