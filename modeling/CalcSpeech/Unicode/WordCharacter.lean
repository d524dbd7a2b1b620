import CalcSpeech.Unicode.Alphabetic
import CalcSpeech.Unicode.Mark
import CalcSpeech.Unicode.Number

/-!
# Word characters

The characters that hold a word together: alphabetic ones, marks, decimal digits, connecting
punctuation such as the underscore, and the two joiners. A word boundary lies where exactly one of
the two neighbours is a word character.
-/

namespace CalcSpeech.Unicode

/-- Connecting punctuation (category Pc) and the zero-width joiners, beyond ASCII. -/
def joinsWords (n : Nat) : Bool :=
  n == 0x200C || n == 0x200D || n == 0x203F || n == 0x2040 || n == 0x2054 || n == 0xFE33 ||
    n == 0xFE34 || (0xFE4D ≤ n && n ≤ 0xFE4F) || n == 0xFF3F

/-- Whether a character belongs to a word; an alphabetic one does unless it is recent. -/
def isWordCharacter (c : Char) : Bool :=
  if c.toNat < 0x80 then c.isAlphanum || c == '_'
  else (isAlphabetic c && !isRecent c) || isMark c || isDecimalDigit c || joinsWords c.toNat

/-- Whether a character is alphabetic or a number of any kind. -/
def isAlphanumeric (c : Char) : Bool := isAlphabetic c || isNumber c

/-- Whether a word begins or ends between two neighbours; outside the text there is no word. -/
def isWordBoundary (before after : Option Char) : Bool :=
  before.any isWordCharacter != after.any isWordCharacter

end CalcSpeech.Unicode
