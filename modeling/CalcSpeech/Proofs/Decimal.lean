import CalcSpeech.Decimal
import CalcSpeech.Proofs.Numeral
import Mathlib.Data.List.TakeWhile
import Mathlib.Tactic.FieldSimp
import Mathlib.Tactic.Ring

/-!
# The values of decimals

Digits around the mark of a language are read as the decimal with those digits
(`ofNumeral?_withDecimals`). A decimal stands for a rational number. Scaling multiplies the number by
a power of ten (`value_shift`), and the written form is a numeral for it (`hasValue_text`).
-/

namespace CalcSpeech

open Unicode

/-- A numeral with its decimals behind their mark, if there are any. -/
def withDecimals (point : Char) (whole decimals : List Char) : List Char :=
  if decimals = [] then whole else whole ++ point :: decimals

/-- Numerals of at most one period, with a digit behind it, and their values. -/
inductive HasValue : List Char → ℚ → Prop
  | whole {ds} : IsPlainDigits ds → HasValue ds (Nat.ofDigitChars 10 ds 0)
  | decimal {ds es} : (∀ c ∈ ds, c.isDigit = true) → IsPlainDigits es →
      HasValue (ds ++ '.' :: es) (Nat.ofDigitChars 10 (ds ++ es) 0 / 10 ^ es.length)

/-- The characters of a numeral with a value. -/
theorem HasValue.mem {n : List Char} {x : ℚ} (h : HasValue n x) {c : Char} (hc : c ∈ n) :
    c.isDigit = true ∨ c = '.' := by
  cases h with
  | whole hds => exact Or.inl (hds.2 c hc)
  | decimal hds hes =>
    rcases List.mem_append.mp hc with hc | hc
    · exact Or.inl (hds c hc)
    · rcases List.mem_cons.mp hc with hc | hc
      · exact Or.inr hc
      · exact Or.inl (hes.2 c hc)

/-- No character of a class without digits and the period is in a numeral with a value. -/
theorem HasValue.forall_eq_false {n : List Char} {x : ℚ} (h : HasValue n x) {f : Char → Bool}
    (hpoint : f '.' = false) (hdigit : ∀ c, isDecimalDigit c = true → f c = false) :
    ∀ c ∈ n, f c = false := by
  intro c hc
  rcases h.mem hc with hd | rfl
  · exact hdigit c (isDecimalDigit_of_isDigit hd)
  · exact hpoint

/-- A numeral has one value. -/
theorem HasValue.unique {n : List Char} {x y : ℚ} (hx : HasValue n x) (hy : HasValue n y) :
    x = y := by
  have hplain {ds : List Char} (hds : ∀ c ∈ ds, c.isDigit = true) : '.' ∉ ds :=
    fun hmem => absurd (hds '.' hmem) (by decide)
  have hpoint {es : List Char} : ('.' :: es).head?.any Char.isDigit = false := by
    show Char.isDigit '.' = false
    decide
  cases hx with
  | whole hds =>
    cases hy with
    | whole => rfl
    | decimal => exact absurd (by simp) (hplain hds.2)
  | @decimal ds es hds hes =>
    generalize hn : ds ++ '.' :: es = n at hy
    cases hy with
    | whole hds' => exact absurd (by rw [← hn]; simp) (hplain hds'.2)
    | @decimal ds' es' hds' hes' =>
      obtain ⟨rfl, hrest⟩ := eq_of_spans hds hds' hpoint hpoint hn
      obtain rfl := (List.cons.inj hrest).2
      rfl

/-! ## Numerals as decimals -/

theorem point_ne_grouping (mark : DecimalMark) : mark.point ≠ mark.grouping := by
  cases mark <;> decide

/-- No mark of a language is a digit. -/
theorem ne_marks_of_isDigit (mark : DecimalMark) {c : Char} (h : c.isDigit = true) :
    c ≠ mark.point ∧ c ≠ mark.grouping := by
  constructor <;> rintro rfl <;> cases mark <;> exact absurd h (by decide)

theorem plain_point (mark : DecimalMark) {es : List Char} (hes : ∀ c ∈ es, c.isDigit = true) :
    ∀ c ∈ es, (c != mark.point) = true :=
  fun c hc => bne_iff_ne.mpr (ne_marks_of_isDigit mark (hes c hc)).1

/-- There are no groups to be taken out of digits. -/
theorem filter_grouping (mark : DecimalMark) {es : List Char}
    (hes : ∀ c ∈ es, c.isDigit = true) : es.filter (· != mark.grouping) = es :=
  List.filter_eq_self.mpr fun c hc => bne_iff_ne.mpr (ne_marks_of_isDigit mark (hes c hc)).2

section Digits

variable {mark : DecimalMark} {t ds es : List Char} (hds : IsPlainDigits ds)

include hds

/-- Digits with no decimal mark are a whole number. -/
theorem ofNumeral?_whole (ht : t.filter (· != mark.grouping) = ds) :
    Decimal.ofNumeral? mark t = some (Decimal.ofDigits ds []) := by
  have htake := List.takeWhile_eq_self_iff.mpr (plain_point mark hds.2)
  have hdrop := List.dropWhile_eq_nil_iff.mpr (plain_point mark hds.2)
  unfold Decimal.ofNumeral?
  simp only [ht]
  rw [htake, hdrop]
  simp [hds.1]

/-- Digits at both sides of the decimal mark are those of a decimal. -/
theorem ofNumeral?_decimal (hes : ∀ c ∈ es, c.isDigit = true)
    (ht : t.filter (· != mark.grouping) = ds ++ mark.point :: es) :
    Decimal.ofNumeral? mark t = some (Decimal.ofDigits ds es) := by
  have htake : (ds ++ mark.point :: es).takeWhile (· != mark.point) = ds := by
    rw [List.takeWhile_append_of_pos (plain_point mark hds.2)]
    simp
  have hdrop : (ds ++ mark.point :: es).dropWhile (· != mark.point) = mark.point :: es := by
    rw [List.dropWhile_append_of_pos (plain_point mark hds.2)]
    simp
  have hlater : es.contains mark.point = false := by
    rw [Bool.eq_false_iff]
    intro hmem
    have hother := plain_point mark hes _ (by simpa using hmem)
    simp at hother
  unfold Decimal.ofNumeral?
  simp only [ht]
  rw [htake, hdrop, List.drop_one, List.tail_cons, hlater]
  simp [hds.1]

/-- A number written with the decimal mark is read as its digits. -/
theorem ofNumeral?_withDecimals (hes : ∀ c ∈ es, c.isDigit = true) (mark : DecimalMark) :
    Decimal.ofNumeral? mark (withDecimals mark.point ds es) = some (Decimal.ofDigits ds es) := by
  unfold withDecimals
  by_cases hnone : es = []
  · rw [if_pos hnone, hnone]
    exact ofNumeral?_whole hds (filter_grouping mark hds.2)
  · have hpoint : (mark.point != mark.grouping) = true :=
      bne_iff_ne.mpr (point_ne_grouping mark)
    rw [if_neg hnone]
    apply ofNumeral?_decimal hds hes
    rw [List.filter_append, filter_grouping mark hds.2, List.filter_cons, if_pos hpoint,
      filter_grouping mark hes]

end Digits

namespace Decimal

/-- The number that a decimal stands for. -/
def value (d : Decimal) : ℚ := d.units / 10 ^ d.places

theorem value_shift (d : Decimal) (exponent : Nat) :
    (d.shift exponent).value = d.value * 10 ^ exponent := by
  unfold shift
  split
  · rename_i hle
    obtain ⟨k, rfl⟩ := Nat.exists_eq_add_of_le hle
    simp only [value, Nat.add_sub_cancel_left, Nat.pow_eq, pow_zero, div_one, pow_add]
    push_cast
    field_simp
  · rename_i hlt
    obtain ⟨k, hk⟩ := Nat.exists_eq_add_of_le (Nat.le_of_not_le hlt)
    simp only [value, hk, Nat.add_sub_cancel_left, pow_add]
    field_simp

theorem value_addWhole (d : Decimal) (n : Nat) : (d.addWhole n).value = d.value + n := by
  simp only [value, addWhole, Nat.pow_eq]
  push_cast
  field_simp

theorem value_ofDigits (whole fraction : List Char) : (ofDigits whole fraction).value =
    Nat.ofDigitChars 10 (whole ++ fraction) 0 / 10 ^ fraction.length := rfl

section Text

variable (d : Decimal)

theorem ofDigitChars_append (ds es : List Char) : Nat.ofDigitChars 10 (ds ++ es) 0 =
    Nat.ofDigitChars 10 ds 0 * 10 ^ es.length + Nat.ofDigitChars 10 es 0 := by
  rw [Nat.ofDigitChars_append, Nat.ofDigitChars_eq_ofDigitChars_zero, Nat.mul_comm]

/-- Without places there is nothing behind the point. -/
theorem fractionDigits_of_whole (h : d.places = 0) : d.fractionDigits = [] := by
  have hmod : d.units % Nat.pow 10 0 = 0 := Nat.mod_one _
  simp only [fractionDigits, h, hmod]
  rfl

/-- The digits behind the point, with as many zeros as are missing, are those of the rest. -/
theorem exists_zeros (h : d.places ≠ 0) : ∃ k, d.fractionDigits.length + k = d.places ∧
    Nat.ofDigitChars 10 d.fractionDigits 0 * 10 ^ k = d.units % 10 ^ d.places ∧
    ∀ c ∈ d.fractionDigits, c.isDigit = true := by
  obtain ⟨digits, hdigits⟩ :
      ∃ digits, digits = Nat.toDigits 10 (d.units % 10 ^ d.places) := ⟨_, rfl⟩
  obtain ⟨padded, hpadded⟩ :
      ∃ padded, padded = List.replicate (d.places - digits.length) '0' ++ digits := ⟨_, rfl⟩
  have hfraction : d.fractionDigits = (padded.reverse.dropWhile (· == '0')).reverse := by
    rw [hpadded, hdigits]
    rfl
  have hplain : ∀ c ∈ padded, c.isDigit = true := by
    intro c hc
    rw [hpadded] at hc
    rcases List.mem_append.mp hc with hc | hc
    · rw [(List.mem_replicate.mp hc).2]
      decide
    · rw [hdigits] at hc
      exact Nat.isDigit_of_mem_toDigits (by omega) (by omega) hc
  have hvalue : Nat.ofDigitChars 10 padded 0 = d.units % 10 ^ d.places := by
    rw [hpadded, Nat.ofDigitChars_append, Nat.ofDigitChars_replicate_zero, Nat.mul_zero, hdigits,
      Nat.ofDigitChars_ten_toDigits]
  have hlength : padded.length = d.places := by
    have hshort : digits.length ≤ d.places := by
      rw [hdigits, Nat.length_toDigits_le_iff (by omega) (by omega)]
      exact Nat.mod_lt _ (Nat.pow_pos (by omega))
    rw [hpadded, List.length_append, List.length_replicate]
    omega
  -- what is dropped at the end are zeros
  have hsplit : padded = d.fractionDigits ++ (padded.reverse.takeWhile (· == '0')).reverse := by
    rw [hfraction, ← List.reverse_append, List.takeWhile_append_dropWhile, List.reverse_reverse]
  have hzeros : ∀ c ∈ (padded.reverse.takeWhile (· == '0')).reverse, c = '0' := by
    intro c hc
    have hall := List.all_takeWhile (l := padded.reverse) (p := (· == '0'))
    exact beq_iff_eq.mp (List.all_eq_true.mp hall c (List.mem_reverse.mp hc))
  obtain ⟨k, hk⟩ : ∃ k, padded = d.fractionDigits ++ List.replicate k '0' := by
    rw [List.eq_replicate_of_mem hzeros] at hsplit
    exact ⟨_, hsplit⟩
  rw [hk, List.length_append, List.length_replicate] at hlength
  rw [hk, Nat.ofDigitChars_append, Nat.ofDigitChars_replicate_zero, Nat.mul_comm] at hvalue
  rw [hk] at hplain
  exact ⟨k, hlength, hvalue, fun c hc => hplain c (List.mem_append_left _ hc)⟩

/-- A decimal is written with a digit in front. -/
theorem head_text : d.text.head?.any Char.isDigit = true := by
  obtain ⟨c, ds, hds⟩ := List.exists_cons_of_ne_nil (Nat.toDigits_ne_nil (b := 10) (n := d.whole))
  rw [text, hds]
  exact Nat.isDigit_of_mem_toDigits (by omega) (by omega) (hds ▸ List.mem_cons_self)

/-- The written form of a decimal is a numeral for it. -/
theorem hasValue_text : HasValue d.text d.value := by
  have hwhole : IsPlainDigits (Nat.toDigits 10 d.whole) := isPlainDigits_toDigits d.whole
  have hunits : d.units = d.whole * 10 ^ d.places + d.units % 10 ^ d.places := by
    rw [Nat.mul_comm]
    exact (Nat.div_add_mod d.units (10 ^ d.places)).symm
  by_cases hplaces : d.places = 0
  · have htext : d.text = Nat.toDigits 10 d.whole := by
      rw [text, d.fractionDigits_of_whole hplaces]
      exact List.append_nil _
    have hvalue : d.value = (Nat.ofDigitChars 10 (Nat.toDigits 10 d.whole) 0 : ℕ) := by
      rw [value, hunits, hplaces, Nat.ofDigitChars_ten_toDigits, pow_zero, pow_zero, Nat.mod_one]
      norm_num
    rw [htext, hvalue]
    exact .whole hwhole
  · obtain ⟨k, hlength, hrest, hdigits⟩ := d.exists_zeros hplaces
    have hvalue : d.value =
        (d.whole + Nat.ofDigitChars 10 d.fractionDigits 0 / 10 ^ d.fractionDigits.length : ℚ) := by
      rw [value, hunits, ← hrest, ← hlength]
      push_cast
      simp only [pow_add]
      field_simp
    by_cases hempty : d.fractionDigits = []
    · have htext : d.text = Nat.toDigits 10 d.whole := by
        rw [text, hempty]
        exact List.append_nil _
      rw [htext, hvalue, hempty]
      have hplain := HasValue.whole hwhole
      rw [Nat.ofDigitChars_ten_toDigits] at hplain
      simpa using hplain
    · have htext : d.text = Nat.toDigits 10 d.whole ++ '.' :: d.fractionDigits := by
        rw [text, if_neg (by simpa using hempty)]
      have hplain := HasValue.decimal hwhole.2 ⟨hempty, hdigits⟩
      rw [ofDigitChars_append, Nat.ofDigitChars_ten_toDigits] at hplain
      rw [htext, hvalue]
      convert hplain using 1
      push_cast
      field_simp

end Text

end Decimal

end CalcSpeech
