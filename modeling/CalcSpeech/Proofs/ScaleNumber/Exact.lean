import CalcSpeech.Proofs.Decimal.Reduced
import CalcSpeech.Proofs.Lexicon
import CalcSpeech.Proofs.ScaleNumber
import CalcSpeech.Stage
import Mathlib.Algebra.Order.Floor.Semifield
import Mathlib.Data.Rat.Floor

/-!
# Exact sums

A number with decimals, a scale word and a whole number behind it are written as the reduced numeral
for their exact sum. Where the whole part of the sum reaches the limit, the scaled number is written
so and the second one stays behind it (`scaleNumbers_exact`).
-/

namespace CalcSpeech

open Pattern Vocabulary

namespace Decimal

/-- The part before the point is all whole units of the number. -/
theorem floor_value (d : Decimal) : ⌊d.value⌋₊ = d.whole := by
  have hpower : (10 ^ d.places : ℚ) = (10 ^ d.places : ℕ) := by push_cast; rfl
  rw [value, hpower, Nat.floor_div_eq_div]
  rfl

theorem floor_value_add (d : Decimal) (n : Nat) : ⌊d.value + n⌋₊ = d.whole + n := by
  have hpositive : 0 ≤ d.value := by
    unfold value
    positivity
  rw [Nat.floor_add_natCast hpositive, d.floor_value]

end Decimal

/-- The number that digits before and behind a point stand for. -/
def digitsValue (whole fraction : List Char) : ℚ :=
  Nat.ofDigitChars 10 whole 0 + Nat.ofDigitChars 10 fraction 0 / 10 ^ fraction.length

theorem value_ofDigits_eq (whole fraction : List Char) :
    (Decimal.ofDigits whole fraction).value = digitsValue whole fraction := by
  rw [Decimal.value_ofDigits, Decimal.ofDigitChars_append, digitsValue]
  push_cast
  field_simp

theorem isMarked_withDecimals {whole fraction : List Char} (hwhole : IsPlainDigits whole)
    (hfraction : ∀ c ∈ fraction, c.isDigit = true) (mark : DecimalMark) :
    IsMarked (withDecimals mark.point whole fraction) := by
  unfold withDecimals
  by_cases hnone : fraction = []
  · rw [if_pos hnone]
    exact .digits hwhole
  · rw [if_neg hnone]
    have hpoint : mark.point = '.' ∨ mark.point = ',' := by cases mark <;> decide
    exact .mark hwhole hpoint (.digits ⟨hnone, hfraction⟩)

/-- A number, a scale word and a whole number are written as the reduced numeral for their exact
sum, unless its whole part is too large; then the scaled number is, with the second behind it. -/
theorem scaleNumbers_exact {pack : LanguagePack} {lexicon : Lexicon}
    (hlexicon : Lexicon.ofPack pack = .ok lexicon) {whole fraction addend : List Char}
    (hwhole : IsPlainDigits whole) (hfraction : ∀ c ∈ fraction, c.isDigit = true)
    (haddend : IsPlainDigits addend) {s : String × Nat} (hs : s ∈ scaleWords) :
    let text := withDecimals pack.decimalMark.point whole fraction ++
      ([' '] ++ (s.1.toList ++ ([' '] ++ addend)))
    let scaled := digitsValue whole fraction * 10 ^ s.2
    let sum := scaled + Nat.ofDigitChars 10 addend 0
    (⌊sum⌋₊ < 2 ^ 128 → IsReduced (Stage.scaleNumbers.rewrite lexicon text) sum) ∧
      (2 ^ 128 ≤ ⌊sum⌋₊ → ∃ n, IsReduced n scaled ∧
        Stage.scaleNumbers.rewrite lexicon text = n ++ ' ' :: addend) := by
  intro text scaled sum
  have hof := Lexicon.isOf_of_ofPack hlexicon
  have hrewrite : Stage.scaleNumbers.rewrite lexicon text = ScaleNumber.rewrite pack.decimalMark
      (ScaleNumber.scaledSum (PercentPhrase.sign pack)) text := by
    rw [Stage.rewrite, hof.scaledSum, hof.pack_eq]
  have hmarked := isMarked_withDecimals hwhole hfraction pack.decimalMark
  have hd := ofNumeral?_withDecimals hwhole hfraction pack.decimalMark
  -- the second number is digits alone, and nothing follows it
  have hread := ScaleNumber.prefers_addend haddend ScaleNumber.endsNumeral_nil (b := some ' ')
  have hsecond : addend.filter Char.isDigit = addend := List.filter_eq_self.mpr haddend.2
  have hscaled : ((Decimal.ofDigits whole fraction).shift s.2).value = scaled := by
    rw [Decimal.value_shift, value_ofDigits_eq]
  have hfloor : ⌊sum⌋₊ = ((Decimal.ofDigits whole fraction).shift s.2).whole +
      Nat.ofDigitChars 10 addend 0 := by
    rw [← Decimal.floor_value_add, hscaled]
  have hbound : 2 ^ 128 = ScaleNumber.sumLimit := rfl
  rw [hrewrite, hfloor, hbound]
  constructor
  · intro hlimit
    rw [← hsecond] at hlimit
    have hsum := Decimal.isReduced_text
      (((Decimal.ofDigits whole fraction).shift s.2).addWhole (Nat.ofDigitChars 10 addend 0))
    rw [ScaleNumber.rewrite_added hmarked hs hd (ScaleNumber.needsAt_sign pack) hread
      haddend.head hlimit, hsecond]
    rwa [Decimal.value_addWhole, hscaled] at hsum
  · intro hlimit
    rw [← hsecond] at hlimit
    refine ⟨_, hscaled ▸ Decimal.isReduced_text _, ?_⟩
    exact ScaleNumber.rewrite_tooLarge hmarked hs hd (ScaleNumber.needsAt_sign pack) hread
      haddend.head (IsMarked.digits haddend).silent hlimit

/-- `1.50 million 007` is `1500007`, and a number of millions that reaches the limit keeps the `5`
behind it apart. -/
theorem scaleNumbers_exact_english : ∃ lexicon, Lexicon.ofPack english = .ok lexicon ∧
    IsReduced (Stage.scaleNumbers.rewrite lexicon "1.50 million 007".toList) (1500007 : ℕ) ∧
    ∃ n, IsReduced n (340282366920938463463374607431768211456 * 10 ^ 6 : ℕ) ∧
      Stage.scaleNumbers.rewrite lexicon
        "340282366920938463463374607431768211456 million 5".toList = n ++ ' ' :: ['5'] := by
  have hpack : english ∈ builtinPacks := List.mem_cons_self
  obtain ⟨lexicon, hlexicon, -⟩ := Lexicon.exists_of_mem hpack
  have hscale : ("million", 6) ∈ scaleWords := by decide
  refine ⟨lexicon, hlexicon, ?_, ?_⟩
  · have htext : "1.50 million 007".toList =
        withDecimals english.decimalMark.point ['1'] ['5', '0'] ++
          ([' '] ++ ("million".toList ++ ([' '] ++ ['0', '0', '7']))) := by decide
    have hwhole : IsPlainDigits ['1'] := ⟨by decide, by decide⟩
    have hfraction : ∀ c ∈ ['5', '0'], c.isDigit = true := by decide
    have haddend : IsPlainDigits ['0', '0', '7'] := ⟨by decide, by decide⟩
    have hsum := scaleNumbers_exact hlexicon hwhole hfraction haddend hscale
    have hvalue : digitsValue ['1'] ['5', '0'] * 10 ^ 6 +
        (Nat.ofDigitChars 10 ['0', '0', '7'] 0 : ℕ) = (1500007 : ℕ) := by
      have hone : Nat.ofDigitChars 10 ['1'] 0 = 1 := by decide
      have hfifty : Nat.ofDigitChars 10 ['5', '0'] 0 = 50 := by decide
      have hseven : Nat.ofDigitChars 10 ['0', '0', '7'] 0 = 7 := by decide
      rw [digitsValue, hone, hfifty, hseven]
      norm_num
    dsimp only at hsum
    rw [hvalue, Nat.floor_natCast, ← htext] at hsum
    exact hsum.1 (by norm_num)
  · have htext : "340282366920938463463374607431768211456 million 5".toList =
        withDecimals english.decimalMark.point
          "340282366920938463463374607431768211456".toList [] ++
            ([' '] ++ ("million".toList ++ ([' '] ++ ['5']))) := by decide
    have hwhole : IsPlainDigits "340282366920938463463374607431768211456".toList :=
      ⟨by decide, by decide⟩
    have hfraction : ∀ c ∈ ([] : List Char), c.isDigit = true := by simp
    have haddend : IsPlainDigits ['5'] := ⟨by decide, by decide⟩
    have hkept := scaleNumbers_exact hlexicon hwhole hfraction haddend hscale
    have hdigits : Nat.ofDigitChars 10 "340282366920938463463374607431768211456".toList 0 =
        340282366920938463463374607431768211456 := by decide
    have hfive : Nat.ofDigitChars 10 ['5'] 0 = 5 := by decide
    have hvalue : digitsValue "340282366920938463463374607431768211456".toList [] * 10 ^ 6 =
        (340282366920938463463374607431768211456 * 10 ^ 6 : ℕ) := by
      rw [digitsValue, hdigits, Nat.ofDigitChars_nil]
      norm_num
    dsimp only at hkept
    rw [hvalue, hfive, ← Nat.cast_add, Nat.floor_natCast, ← htext] at hkept
    exact hkept.2 (by norm_num)

end CalcSpeech
