/-!
# Unsigned numbers in settings

Numbers in settings and options are written in digits, with leading zeros or a plus sign if one
likes, and are refused at and beyond a bound.
-/

namespace CalcSpeech.Text

/-- The number below `bound` that a text spells. -/
def unsigned? (bound : Nat) (s : String) : Option Nat :=
  let digits := match s.toList with
    | '+' :: rest => rest
    | text => text
  let value := Nat.ofDigitChars 10 digits 0
  if digits.isEmpty || !digits.all Char.isDigit || bound ≤ value then none else some value

end CalcSpeech.Text
