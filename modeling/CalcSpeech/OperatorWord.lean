import CalcSpeech.PercentPhrase

/-!
# Operator words

Phrases around two operands come first, since their verbs are also operator words: `subtract 3
from 10` becomes `10 - 3`. Then each word for an operation gives way to its sign.
-/

namespace CalcSpeech.OperatorWord

open Pattern

/-- The patterns of a language for phrases, with the operands as 1 and 2 and a percent sign behind
them as 3, and for the words of each list. -/
structure Patterns where
  phrase : PhraseKind → Option Pattern
  word : WordList → Option Pattern

/-- An operand of a phrase: digits with at most one decimal part. -/
def pointedOperand : Pattern :=
  inOrder [atLeastOne digit, optional (inOrder [just '.', atLeastOne digit])]

/-- A verb, an operand, a connective, an operand, and a percent sign if one follows. -/
def phrasePattern? (percent : Pattern) (template : PhraseTemplate) : Option Pattern := do
  let verb ← Vocabulary.pattern? template.verbs
  let connective ← Vocabulary.pattern? template.connectives
  return inOrder [verb, gap, group 1 pointedOperand, gap, connective, gap, group 2 pointedOperand,
    optional (group 3 (inOrder [loose, percent]))]

/-- The patterns for a language. -/
def Patterns.ofPack (pack : LanguagePack) : Patterns where
  phrase kind := phrasePattern? (PercentPhrase.sign pack) (pack.phrases kind)
  word list := Vocabulary.pattern? (pack.words list)

/-- The expression for a phrase with operands `a` and `b`, in the order in which they are
spoken. -/
def phraseText (kind : PhraseKind) (a b : List Char) : List Char :=
  match kind with
  | .add => a ++ " + ".toList ++ b
  | .subtract => b ++ " - ".toList ++ a
  | .multiply => b ++ " * ".toList ++ a
  | .divide => b ++ " / ".toList ++ a

/-- Rewrites a phrase; one with a percent sign behind it is a percentage and stays. -/
def rewritePhrase (kind : PhraseKind) (m : Match) : List Char :=
  match m.group? 3 with
  | some _ => m.text
  | none => phraseText kind (m.group 1) (m.group 2)

/-- The signs that words give way to, in the order in which they do. -/
def signs : List (WordList × String) :=
  [(.addition, " + "), (.subtraction, " - "), (.multiplication, " * "), (.division, " / "),
    (.percentOf, " / 100 * "), (.percentage, " % "), (.power, " ^ "), (.squared, " ^ 2 "),
    (.squareRoot, " sqrt "), (.openParen, " ( "), (.closeParen, " ) ")]

/-- Puts the sign for each word of a list. Where a percent sign is written, the words for a
percentage of something were read with it and are passed over. -/
def replaceWords (p : Patterns) (text : List Char) (sign : WordList × String) : List Char :=
  if sign.1 = .percentOf ∧ text.contains '%' then text
  else rewrite? (p.word sign.1) (fun _ => sign.2.toList) text

/-- Writes the phrases and words for operations as signs. -/
def rewrite (p : Patterns) (text : List Char) : List Char :=
  let text := PhraseKind.all.foldl
    (fun text kind => rewrite? (p.phrase kind) (rewritePhrase kind) text) text
  signs.foldl (replaceWords p) text

end CalcSpeech.OperatorWord
