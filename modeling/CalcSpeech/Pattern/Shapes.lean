import CalcSpeech.Pattern.Search
import CalcSpeech.Unicode.Blank

/-!
# Pattern shapes

The shapes that the patterns for spoken arithmetic are made of: gaps between words, digits, and
the numerals that dictation writes.
-/

namespace CalcSpeech.Pattern

open Unicode

/-- The patterns one after the other. -/
def inOrder : List Pattern → Pattern
  | [] => empty
  | [p] => p
  | p :: rest => seq p (inOrder rest)

/-- One of the patterns, preferring earlier ones. -/
def oneOf : List Pattern → Pattern
  | [] => never
  | [p] => p
  | p :: rest => alt p (oneOf rest)

/-- The pattern or nothing, preferring the pattern. -/
def optional (p : Pattern) : Pattern := alt p empty

/-- The pattern once or more, preferring more. -/
def atLeastOne (p : Pattern) : Pattern := seq p (many p)

/-- The pattern `n` times. -/
def times (n : Nat) (p : Pattern) : Pattern := inOrder (List.replicate n p)

/-- The pattern one to three times, preferring more. -/
def upToThree (p : Pattern) : Pattern := oneOf [times 3 p, times 2 p, p]

/-- Exactly this character. -/
def just (c : Char) : Pattern := char (· == c)

/-- A run of blanks. -/
def gap : Pattern := atLeastOne (char isBlank)

/-- Blanks, or none. -/
def loose : Pattern := many (char isBlank)

/-- A decimal digit of any script. -/
def digit : Pattern := char isDecimalDigit

/-- A digit from `0` to `9`. -/
def asciiDigit : Pattern := char Char.isDigit

/-- A period or a comma. -/
def mark : Pattern := char fun c => c == '.' || c == ','

/-- Digits with at most one marked part behind them, as in `12` and `2.5`. -/
def operand : Pattern := inOrder [atLeastOne digit, optional (inOrder [mark, atLeastOne digit])]

/-- Digits with any number of marked parts behind them, as in `1,000` and `2,5`. -/
def marked (digit : Pattern) : Pattern :=
  inOrder [atLeastOne digit, many (inOrder [mark, atLeastOne digit])]

/-- The group numbers of a pattern, in the order in which the groups open. -/
def groupIndices : Pattern → List Nat
  | seq p q | alt p q => p.groupIndices ++ q.groupIndices
  | many p | ahead _ p => p.groupIndices
  | group index p => index :: p.groupIndices
  | _ => []

/-- One of several patterns matches where each of them does, in their order. -/
theorem spots_oneOf (ps : List Pattern) (s : Spot) :
    (oneOf ps).spots s = ps.flatMap (·.spots s) := by
  induction ps with
  | nil => rfl
  | cons p ps ih =>
    cases ps with
    | nil => simp [oneOf]
    | cons q ps => simp only [oneOf, spots, ih, List.flatMap_cons]

end CalcSpeech.Pattern
