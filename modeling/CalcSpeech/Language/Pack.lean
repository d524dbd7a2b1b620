import CalcSpeech.Text.Words
import CalcSpeech.Unicode.Lowercase

/-!
# Language packs

A language is data: the words that stand for numbers, for operations and for the parts of a
phrase, and the mark that separates the decimals of a written number. A pack is valid when it has
a code and every number word of it has digits for its value.
-/

namespace CalcSpeech

/-- The mark in front of the decimals of a written number; the other mark groups thousands. -/
inductive DecimalMark where
  | period
  | comma
  deriving DecidableEq, Repr, Inhabited

namespace DecimalMark

/-- The mark in front of the decimals. -/
def point : DecimalMark → Char
  | period => '.'
  | comma => ','

/-- The mark between groups of digits. -/
def grouping : DecimalMark → Char
  | period => ','
  | comma => '.'

/-- The name under which packs give the mark. -/
def name : DecimalMark → String
  | period => "period"
  | comma => "comma"

end DecimalMark

/-- The word lists of a language. -/
inductive WordList where
  | numberConnectors
  | decimalWords
  | addition
  | subtraction
  | multiplication
  | division
  | percentOf
  | percentage
  | power
  | squared
  | squareRoot
  | openParen
  | closeParen
  | ofWords
  deriving DecidableEq, Repr

namespace WordList

/-- Every word list, in the order in which packs write them. -/
def all : List WordList :=
  [numberConnectors, decimalWords, addition, subtraction, multiplication, division, percentOf,
    percentage, power, squared, squareRoot, openParen, closeParen, ofWords]

/-- The name under which packs give a list. -/
def name : WordList → String
  | numberConnectors => "number_connectors"
  | decimalWords => "decimal_words"
  | addition => "addition"
  | subtraction => "subtraction"
  | multiplication => "multiplication"
  | division => "division"
  | percentOf => "percent_of"
  | percentage => "percentage"
  | power => "power"
  | squared => "squared"
  | squareRoot => "sqrt"
  | openParen => "open_paren"
  | closeParen => "close_paren"
  | ofWords => "of_words"

/-- The list of a name. -/
def ofName? (name : String) : Option WordList := all.find? (·.name == name)

end WordList

/-- The operations that are also spoken as a phrase around two operands. -/
inductive PhraseKind where
  | add
  | subtract
  | multiply
  | divide
  deriving DecidableEq, Repr

namespace PhraseKind

/-- Every kind of phrase, in the order in which packs write them. -/
def all : List PhraseKind := [add, subtract, multiply, divide]

/-- The name under which packs give a phrase. -/
def name : PhraseKind → String
  | add => "add"
  | subtract => "subtract"
  | multiply => "multiply"
  | divide => "divide"

end PhraseKind

/-- A phrase with two operands: a verb, the first operand, a connective, the second operand. -/
structure PhraseTemplate where
  verbs : List String := []
  connectives : List String := []
  deriving DecidableEq, Repr, Inhabited

/-- Whether a phrase cannot be spoken for lack of a verb or of a connective. -/
def PhraseTemplate.isEmpty (t : PhraseTemplate) : Bool := t.verbs.isEmpty || t.connectives.isEmpty

/-- The words of one language. -/
structure LanguagePack where
  code : String := ""
  name : String := ""
  decimalMark : DecimalMark := .period
  /-- number words with the digits of their values, each word once, in ascending order -/
  numbers : List (String × String) := []
  words : WordList → List String := fun _ => []
  phrases : PhraseKind → PhraseTemplate := fun _ => {}
  deriving Inhabited

/-- What makes a pack unfit for use. -/
inductive PackFault where
  | unreadable (reason : String)
  | emptyCode
  | emptyNumberWord (code : String)
  | notDigits (code word value : String)
  | tooLarge (code word value : String)
  deriving DecidableEq, Repr

/-- The wording of a fault. -/
def PackFault.message : PackFault → String
  | unreadable reason => reason
  | emptyCode => "language code cannot be empty"
  | emptyNumberWord code => s!"'{code}': empty number word"
  | notDigits code word value =>
    s!"'{code}': number word '{word}' maps to non-digit value '{value}'"
  | tooLarge code word value =>
    s!"'{code}': number word '{word}' has invalid value '{value}': " ++
      "number too large to fit in target type"

/-- The form of a language code under which it is registered and looked up. -/
def LanguageCode.normalize (code : String) : String :=
  Unicode.lowercaseString (Text.trimString code)

namespace LanguagePack

/-- Whether a value is written in digits from `0` to `9`, at least one. -/
def isDigits (value : String) : Bool := !value.isEmpty && value.toList.all Char.isDigit

/-- The fault of one number word of the pack with this code. -/
def numberFault? (code : String) (number : String × String) : Option PackFault :=
  if Text.isAllBlank number.1.toList then some (.emptyNumberWord code)
  else if isDigits number.2 then none
  else some (.notDigits code number.1 number.2)

/-- The first fault of a pack, if it is not valid. -/
def fault? (pack : LanguagePack) : Option PackFault :=
  if Text.isAllBlank pack.code.toList then some .emptyCode
  else pack.numbers.findSome? (numberFault? pack.code)

/-- The pack with more words in one of its lists. -/
def addWords (pack : LanguagePack) (list : WordList) (more : List String) : LanguagePack :=
  { pack with
    words := fun other => if other = list then pack.words list ++ more else pack.words other }

/-- Puts a number word in its place; a word that is there already takes the new digits. -/
def insertNumber (word digits : String) : List (String × String) → List (String × String)
  | [] => [(word, digits)]
  | (other, value) :: rest =>
    if word = other then (word, digits) :: rest
    else if word < other then (word, digits) :: (other, value) :: rest
    else (other, value) :: insertNumber word digits rest

/-- Number words in ascending order; of a word given twice the last digits count. -/
def sortNumbers (numbers : List (String × String)) : List (String × String) :=
  numbers.foldl (fun sorted (word, digits) => insertNumber word digits sorted) []

end LanguagePack

end CalcSpeech
