import CalcSpeech.PercentPhrase
import CalcSpeech.Unicode.Letter
import CalcSpeech.Unicode.Mark

/-!
# Expressions

What is left of a transcript once its words are read is an expression with filler in it. Filler is
dropped: quotes, sentence punctuation, the full stop, every letter and mark outside `sqrt`, and
commas. Repeated plus signs become one, and gaps become single spaces.
-/

namespace CalcSpeech.Expression

open Unicode

/-- The only word of an expression. -/
def rootWord : List Char := "sqrt".toList

/-- A character of no script that stands for the word while letters are dropped. -/
def rootSign : Char := '\uE000'

/-- Puts the sign for each `sqrt`. -/
def hideRoots : List Char → List Char :=
  (Pattern.inOrder (rootWord.map .just)).rewrite fun _ => [rootSign]

/-- Puts `sqrt` for each sign. -/
def showRoots (text : List Char) : List Char :=
  text.flatMap fun c => if c = rootSign then rootWord else [c]

/-- The characters that quote something. -/
def quotes : List Char := ['"', '\'', '`', '´', '“', '”', '‘', '’', '«', '»', '„']

/-- The punctuation of a sentence. -/
def punctuation : List Char := ['?', '!', ';', ':', '¿', '¡']

/-- Drops each period that ends a sentence: one with a blank or nothing behind it. -/
def dropFullStops : List Char → List Char
  | [] => []
  | c :: rest =>
    if c = '.' ∧ rest.head?.all isBlank then dropFullStops rest else c :: dropFullStops rest

/-- Whether a character is filler that separates what stands around it. -/
def isFiller (c : Char) : Bool := isLetter c || isMark c || c == ','

/-- A blank for filler. -/
def blankFiller (c : Char) : Char := if isFiller c then ' ' else c

/-- Puts a character in front of a text, unless it is a plus sign and the text begins with one, up
to blanks. -/
def consPlus (c : Char) (text : List Char) : List Char :=
  if c = '+' ∧ (text.dropWhile isBlank).head? = some '+' then text.dropWhile isBlank else c :: text

/-- One plus sign for each row of plus signs. -/
def mergePlus (text : List Char) : List Char := text.foldr consPlus []

/-- A text without its filler. -/
def canonicalize (text : List Char) : List Char :=
  let text := (hideRoots text).filter (!quotes.contains ·)
  let text := text.map fun c => if punctuation.contains c then ' ' else c
  let text := (dropFullStops text).map blankFiller
  Text.collapse (mergePlus (showRoots text))

/-- The expression of a text. Without filler a quantity and its percentage may have come together,
so these are looked for once more. -/
def rewrite (percent : PercentPhrase.Patterns) (text : List Char) : List Char :=
  PercentPhrase.rewritePlusMinus percent (canonicalize text)

end CalcSpeech.Expression
