import CalcSpeech.Json.Basic
import CalcSpeech.Json.Draft
import CalcSpeech.Proofs.Numeral

/-!
# How values are spelled

The grammar of JSON as a relation between a value and the texts that spell it, apart from the way
in which they are read. Blanks may stand around every part, a character may be escaped or not, and a
number may have decimals and an exponent. A value is a draft nothing of which is broken off: of a
number only its range counts, and a text in which half of a character stands alone has no characters.
-/

namespace CalcSpeech.Json

/-- Nothing but blanks between the parts of a value. -/
def IsSpace (text : List Char) : Prop := ∀ c ∈ text, isSpace c = true

/-! ## Numbers -/

/-- Digits of which none could be left out, in front of the point. -/
def IsWhole (digits : List Char) : Prop :=
  IsPlainDigits digits ∧ (digits.head? = some '0' → digits = ['0'])

/-- A point with the decimals behind it, or nothing. -/
inductive SpellsFraction : (decimals : List Char) → List Char → Prop
  | none : SpellsFraction [] []
  | point {digits} : IsPlainDigits digits → SpellsFraction digits ('.' :: digits)

/-- The letter of an exponent, its sign and its digits, or nothing. -/
inductive SpellsExponent : (exponent : Int) → List Char → Prop
  | none : SpellsExponent 0 []
  | bare {letter digits} : letter = 'e' ∨ letter = 'E' → IsPlainDigits digits →
      SpellsExponent (Nat.ofDigitChars 10 digits 0) (letter :: digits)
  | plus {letter digits} : letter = 'e' ∨ letter = 'E' → IsPlainDigits digits →
      SpellsExponent (Nat.ofDigitChars 10 digits 0) (letter :: '+' :: digits)
  | minus {letter digits} : letter = 'e' ∨ letter = 'E' → IsPlainDigits digits →
      SpellsExponent (-Nat.ofDigitChars 10 digits 0) (letter :: '-' :: digits)

/-- A number without its sign. -/
inductive SpellsUnsigned : (inRange : Bool) → List Char → Prop
  | mk {whole decimals point exponent power} : IsWhole whole → SpellsFraction decimals point →
      SpellsExponent exponent power →
      SpellsUnsigned (isInRange (Nat.ofDigitChars 10 (whole ++ decimals) 0)
        (exponent - decimals.length)) (whole ++ point ++ power)

/-- A number, with a minus sign in front of it or without. -/
inductive SpellsNumber (inRange : Bool) : List Char → Prop
  | plain {text} : SpellsUnsigned inRange text → SpellsNumber inRange text
  | minus {text} : SpellsUnsigned inRange text → SpellsNumber inRange ('-' :: text)

/-! ## Quoted texts -/

/-- A character as it is, a character behind a backslash, or four digits behind `\u`. -/
inductive SpellsUnit : Unit16 → List Char → Prop
  | plain {c} : c ≠ '"' → c ≠ '\\' → 32 ≤ c.toNat → SpellsUnit (.whole c) [c]
  | escape {c letter} : escaped? letter = some c → SpellsUnit (.whole c) ['\\', letter]
  | hex {a b c d i j k l} : hexValue? a = some i → hexValue? b = some j → hexValue? c = some k →
      hexValue? d = some l →
      SpellsUnit (.ofNat (((i * 16 + j) * 16 + k) * 16 + l)) ['\\', 'u', a, b, c, d]

/-- The units of a quoted text, one after the other. -/
def SpellsUnits (units : List Unit16) (text : List Char) : Prop :=
  ∃ parts, List.Forall₂ SpellsUnit units parts ∧ text = parts.flatten

/-- A text between quotes. -/
def SpellsQuoted (s : Option String) (text : List Char) : Prop :=
  ∃ units body, SpellsUnits units body ∧ text = '"' :: body ++ ['"'] ∧
    s = (joinUnits? units).map String.ofList

/-! ## Values -/

mutual

/-- A text spells a value, with no blanks around it. -/
def Spells : Draft → List Char → Prop
  | .broken, _ => False
  | .null, source => source = "null".toList
  | .bool b, source => source = (if b then "true" else "false").toList
  | .number inRange, source => SpellsNumber inRange source
  | .text s, source => SpellsQuoted s source
  | .list items closed, source =>
    closed = true ∧ ∃ body, source = '[' :: body ++ [']'] ∧ SpellsItems items body
  | .record fields closed, source =>
    closed = true ∧ ∃ body, source = '\x7b' :: body ++ ['\x7d'] ∧ SpellsFields fields body

/-- The items of a list with commas between. -/
def SpellsItems : List Draft → List Char → Prop
  | [], body => IsSpace body
  | item :: rest, body =>
    ∃ lead text trail behind, body = lead ++ text ++ trail ++ behind ∧ IsSpace lead ∧
      IsSpace trail ∧ Spells item text ∧
      ((rest = [] ∧ behind = []) ∨
        rest ≠ [] ∧ ∃ more, behind = ',' :: more ∧ SpellsItems rest more)

/-- The fields of a record with commas between, each a name, a colon and a value. -/
def SpellsFields : List (Option String × Draft) → List Char → Prop
  | [], body => IsSpace body
  | (name, value) :: rest, body =>
    ∃ lead quoted gap front text trail behind,
      body = lead ++ quoted ++ gap ++ ':' :: front ++ text ++ trail ++ behind ∧ IsSpace lead ∧
      IsSpace gap ∧ IsSpace front ∧ IsSpace trail ∧ SpellsQuoted name quoted ∧
      Spells value text ∧
      ((rest = [] ∧ behind = []) ∨
        rest ≠ [] ∧ ∃ more, behind = ',' :: more ∧ SpellsFields rest more)

end

/-- A text spells a value and holds nothing else but blanks. -/
def SpellsAll (value : Draft) (text : List Char) : Prop :=
  ∃ lead body trail, text = lead ++ body ++ trail ∧ IsSpace lead ∧ IsSpace trail ∧ Spells value body

end CalcSpeech.Json
