import CalcSpeech.Language.Pack

/-!
# Exact decimals

A decimal is a natural number of units of a negative power of ten. Scaling by a power of ten and
adding whole numbers are exact, and each decimal has one written form: no leading zeros, no
trailing zeros behind the point, and no point without decimals.
-/

namespace CalcSpeech

/-- The decimal `units / 10 ^ places`. -/
structure Decimal where
  units : Nat
  places : Nat
  deriving DecidableEq, Repr

namespace Decimal

/-- The decimal with these digits before and behind the point. -/
def ofDigits (whole fraction : List Char) : Decimal :=
  ⟨Nat.ofDigitChars 10 (whole ++ fraction) 0, fraction.length⟩

/-- The decimal written with a given decimal mark. Grouping marks are passed over; a second
decimal mark, or none but decimals, is no decimal. -/
def ofNumeral? (mark : DecimalMark) (numeral : List Char) : Option Decimal :=
  let digits := numeral.filter (· != mark.grouping)
  let whole := digits.takeWhile (· != mark.point)
  let fraction := (digits.dropWhile (· != mark.point)).drop 1
  if whole.isEmpty || fraction.contains mark.point then none else some (ofDigits whole fraction)

/-- The decimal times a power of ten. -/
def shift (d : Decimal) (exponent : Nat) : Decimal :=
  if d.places ≤ exponent then ⟨d.units * Nat.pow 10 (exponent - d.places), 0⟩
  else ⟨d.units, d.places - exponent⟩

/-- The part before the point. -/
def whole (d : Decimal) : Nat := d.units / Nat.pow 10 d.places

/-- The decimal plus a whole number. -/
def addWhole (d : Decimal) (n : Nat) : Decimal := ⟨d.units + n * Nat.pow 10 d.places, d.places⟩

/-- The digits behind the point, up to the last that is not zero. -/
def fractionDigits (d : Decimal) : List Char :=
  let digits := Nat.toDigits 10 (d.units % Nat.pow 10 d.places)
  let padded := List.replicate (d.places - digits.length) '0' ++ digits
  (padded.reverse.dropWhile (· == '0')).reverse

/-- The written form of a decimal. -/
def text (d : Decimal) : List Char :=
  Nat.toDigits 10 d.whole ++
    if d.fractionDigits.isEmpty then [] else '.' :: d.fractionDigits

end Decimal

end CalcSpeech
