import CalcSpeech.Language.Pack
import CalcSpeech.Language.ScaleWord
import CalcSpeech.NumberWord.Fold

/-!
# Number words in a text

Each run of number words is cut into its words, which are looked up and folded into digits.
Phrases such as `pour cent` that contain a number word without being a number are left alone.
-/

namespace CalcSpeech.NumberWord

open Pattern

/-- What the number words of a language are found and read with. -/
structure Reader where
  /-- a protected phrase (1) or a run of number words (2) -/
  run : Pattern
  /-- a number word (2) with the connector before it (1) -/
  token : Pattern
  /-- the value of each number word in its kept form -/
  values : List (List Char × Nat)

/-- The value of a number word in any case and spacing. -/
def Reader.valueOf? (reader : Reader) (word : List Char) : Option Nat :=
  reader.values.lookup (Unicode.lowercase (Text.collapse word))

/-- The values of number words by their kept form, where of two words with one form the later one
counts; a value beyond the limit is a fault. -/
def readValues (code : String) :
    List (String × String) → Except PackFault (List (List Char × Nat))
  | [] => .ok []
  | (word, digits) :: rest =>
    let value := Nat.ofDigitChars 10 digits.toList 0
    if valueLimit < value then .error (.tooLarge code word digits)
    else (readValues code rest).map (· ++ [(Vocabulary.entry word, value)])

/-- The phrases of a language that must survive although they may contain number words: those of
more than one word for percentages, and the scales of more than one word. -/
def protectedPhrases (pack : LanguagePack) : List String :=
  (pack.words .percentOf ++ pack.words .percentage ++ multiWordScales).filter fun phrase =>
    (Text.trim phrase.toList).any Unicode.isBlank

/-- A gap inside a run, with a connector in it where the language has some. -/
def innerGap : Option Pattern → Pattern
  | none => gap
  | some connector => inOrder [gap, optional (inOrder [connector, gap])]

/-- A row of number words. -/
def runPattern (word : Pattern) (connector : Option Pattern) : Pattern :=
  inOrder [word, many (inOrder [innerGap connector, word])]

/-- A number word with the connector before it. -/
def tokenPattern (word : Pattern) : Option Pattern → Pattern
  | none => group 2 word
  | some connector => inOrder [optional (inOrder [group 1 connector, gap]), group 2 word]

/-- The reader for the number words of a pack; a pack without number words has none. -/
def Reader.ofPack? (pack : LanguagePack) : Except PackFault (Option Reader) := do
  let values ← readValues pack.code pack.numbers
  match Vocabulary.pattern? (pack.numbers.map (·.1)) with
  | none => return none
  | some word =>
    let connector := Vocabulary.pattern? (pack.words .numberConnectors)
    return some {
      run := alt (group 1 (Vocabulary.pattern (protectedPhrases pack)))
        (group 2 (runPattern word connector))
      token := tokenPattern word connector
      values }

/-- The token that a match of the token pattern stands for. -/
def Reader.tokenOf? (reader : Reader) (m : Match) : Option Token :=
  (reader.valueOf? (m.group 2)).map (⟨·, m.group? 1⟩)

/-- The tokens of a run, unless a word of it has no value. -/
def Reader.tokens? (reader : Reader) (run : List Char) : Option (List Token) :=
  (reader.token.matchesIn run).mapM reader.tokenOf?

/-- The digits for a run of number words; a run without tokens stays as it is. -/
def Reader.decode (reader : Reader) (run : List Char) : List Char :=
  match reader.tokens? run with
  | none | some [] => run
  | some tokens => foldText tokens

/-- Rewrites a match of the run pattern. -/
def Reader.rewriteRun (reader : Reader) (m : Match) : List Char :=
  match m.group? 1 with
  | some _ => m.text
  | none => reader.decode m.text

/-- Writes the number words of a text as digits. -/
def rewrite (reader : Option Reader) (text : List Char) : List Char :=
  match reader with
  | none => text
  | some reader => reader.run.rewrite reader.rewriteRun text

end CalcSpeech.NumberWord
