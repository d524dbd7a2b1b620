import CalcSpeech.NumberWord.Fold
import Mathlib.Algebra.Group.Nat.Defs

/-!
# Spelled numbers

A number below ten thousand is spelled as a number of hundreds and a number below a hundred, either
of which may be missing (`SpellsNumber`). Every part of a spelling goes on with the number under
way: the smaller one is added to what ends in enough zeros, and a hundred or a greater magnitude
multiplies what was read before it. So a spelling is read as one number, and so are two spellings
with a magnitude between them, up to the largest value (`foldText_spelled`).
-/

namespace CalcSpeech.NumberWord

/-! ## Spellings -/

/-- Tokens for a number below a hundred: none, one for all of it, or one for its tens and one for
its units. -/
inductive SpellsUnits : Nat → List Token → Prop
  | none : SpellsUnits 0 []
  | whole {t} : 0 < t.value → t.value < 100 → SpellsUnits t.value [t]
  | tens {t u d} : t.value = 10 * d → 2 ≤ d → d ≤ 9 → 0 < u.value → u.value ≤ 9 →
      SpellsUnits (t.value + u.value) [t, u]

/-- Tokens for a number of hundreds: none, one for up to nine of them, or those for how many there
are and a token for a hundred. -/
inductive SpellsHundreds : Nat → List Token → Prop
  | none : SpellsHundreds 0 []
  | whole {t hundreds} : t.value = 100 * hundreds → 1 ≤ hundreds → hundreds ≤ 9 →
      SpellsHundreds hundreds [t]
  | counted {t hundreds tokens} : SpellsUnits hundreds tokens → 0 < hundreds → t.value = 100 →
      SpellsHundreds hundreds (tokens ++ [t])

/-- Tokens for a number below ten thousand, whatever their connectors. -/
inductive SpellsNumber : Nat → List Token → Prop
  | intro {hundreds units front back} : SpellsHundreds hundreds front → SpellsUnits units back →
      SpellsNumber (100 * hundreds + units) (front ++ back)

section Spellings

variable {n : Nat} {tokens : List Token}

theorem SpellsUnits.lt (h : SpellsUnits n tokens) : n < 100 := by
  cases h <;> omega

theorem SpellsUnits.eq_nil_iff (h : SpellsUnits n tokens) : tokens = [] ↔ n = 0 := by
  cases h with
  | none => simp
  | whole hpos _ => simp [Nat.ne_of_gt hpos]
  | tens _ _ _ hpos _ => simp [Nat.ne_of_gt hpos]

theorem SpellsHundreds.lt (h : SpellsHundreds n tokens) : n < 100 := by
  cases h with
  | none => omega
  | whole _ _ hhigh => omega
  | counted hcount _ _ => exact hcount.lt

theorem SpellsHundreds.eq_nil_iff (h : SpellsHundreds n tokens) : tokens = [] ↔ n = 0 := by
  cases h with
  | none => simp
  | whole _ hlow _ => simp [Nat.ne_of_gt hlow]
  | counted _ hpos _ => simp [Nat.ne_of_gt hpos]

theorem SpellsNumber.lt (h : SpellsNumber n tokens) : n < 10000 := by
  obtain ⟨hfront, hback⟩ := h
  have hhundreds := hfront.lt
  have hunits := hback.lt
  omega

/-- Only zero is spelled by no tokens. -/
theorem SpellsNumber.eq_nil_iff (h : SpellsNumber n tokens) : tokens = [] ↔ n = 0 := by
  obtain ⟨hfront, hback⟩ := h
  rw [List.append_eq_nil_iff, hfront.eq_nil_iff, hback.eq_nil_iff]
  omega

end Spellings

/-! ## Place values -/

theorem placeValueWithin_pos (fuel n : Nat) : 1 ≤ placeValueWithin fuel n := by
  induction fuel generalizing n with
  | zero => exact Nat.le_refl 1
  | succ fuel ih =>
    rw [placeValueWithin]
    split
    · have := ih (n / 10)
      omega
    · exact Nat.le_refl 1

/-- A power of ten that divides a number is not above its place value. -/
theorem pow_le_placeValueWithin {power fuel n : Nat} (hn : 0 < n) (hfuel : n ≤ fuel)
    (h : 10 ^ power ∣ n) : 10 ^ power ≤ placeValueWithin fuel n := by
  induction power generalizing fuel n with
  | zero => exact placeValueWithin_pos fuel n
  | succ power ih =>
    obtain ⟨m, rfl⟩ := h
    obtain ⟨fuel, rfl⟩ : ∃ smaller, fuel = smaller + 1 := ⟨fuel - 1, by omega⟩
    have hten : 10 ^ (power + 1) * m = 10 * (10 ^ power * m) := by
      rw [Nat.pow_succ, Nat.mul_comm (10 ^ power) 10, Nat.mul_assoc]
    have hplace : 10 ^ power ≤ placeValueWithin fuel (10 ^ power * m) :=
      ih (by omega) (by omega) (Nat.dvd_mul_right _ _)
    rw [hten, placeValueWithin, if_pos (Nat.mul_mod_right _ _),
      Nat.mul_div_cancel_left _ (by decide), Nat.pow_succ]
    omega

/-- What has fewer digits than there are zeros at the end of a number fits behind the number. -/
theorem extends?_of_dvd {j current value : Nat} (h : 10 ^ j ∣ current)
    (hvalue : value < 10 ^ j) : extends? current value = true := by
  rw [extends?, Bool.or_eq_true, beq_iff_eq, decide_eq_true_eq]
  by_cases hzero : current = 0
  · exact Or.inl hzero
  · have hplace := pow_le_placeValueWithin (Nat.pos_of_ne_zero hzero) (Nat.le_refl current) h
    exact Or.inr (Nat.lt_of_lt_of_le hvalue hplace)

theorem capped_of_lt {n : Nat} (h : n < 1000000) : capped n = n := by
  have hlimit : 1000000 ≤ valueLimit := by decide
  exact Nat.min_eq_left (by omega)

/-- What is beyond the largest value stays so when more is added. -/
theorem capped_capped_add (m n : Nat) : capped (capped m + n) = capped (m + n) := by
  unfold capped
  omega

namespace Fold

variable {f : Fold} {t : Token}

/-! ## Tokens that go on with the number under way -/

/-- A value that fits is added. -/
theorem read_part (h : extends? f.current t.value = true) (hpos : 0 < t.value)
    (hlt : t.value < 1000) (hne : t.value ≠ 100) :
    f.read t = { f with current := f.current + t.value, pending := true } := by
  rw [read, if_neg (by omega), if_neg (by omega), if_neg hne, readPart, if_pos h]

/-- A hundred multiplies what is below a hundred. -/
theorem read_hundred (ht : t.value = 100) (hlt : f.current < 100) :
    f.read t = { f with current := max f.current 1 * 100, pending := true } := by
  have hcapped : capped (max f.current 1 * 100) = max f.current 1 * 100 :=
    capped_of_lt (by omega)
  rw [read, if_neg (by omega), if_neg (by omega), if_pos ht, readHundred, if_neg (by omega),
    hcapped]

/-- A magnitude multiplies what was read, if it is the first one. -/
theorem read_magnitude (ht : 1000 ≤ t.value) (htotal : f.total = 0) :
    f.read t = { f with
      total := capped (max f.current 1 * t.value), current := 0, pending := true } := by
  rw [read, if_neg (by omega), if_pos ht, readMagnitude, htotal, if_neg (Nat.lt_irrefl 0)]

/-! ## Spellings that go on with the number under way -/

section Spellings

variable {n : Nat} {tokens : List Token}

/-- A number below a hundred is added to a number of hundreds. -/
theorem foldl_read_units (h : SpellsUnits n tokens) (hcurrent : 100 ∣ f.current) :
    tokens.foldl read f =
      { f with current := f.current + n, pending := f.pending || decide (0 < n) } := by
  have hextends {value : Nat} (hvalue : value < 100) : extends? f.current value = true :=
    extends?_of_dvd (j := 2) hcurrent hvalue
  cases h with
  | none => simp
  | @whole t hpos hlt =>
    rw [List.foldl_cons, read_part (hextends hlt) hpos (by omega) (by omega)]
    simp [hpos]
  | @tens t u d ht hlow hhigh hpos hlt =>
    -- the units fit behind the tens
    have hfits : extends? (f.current + t.value) u.value = true :=
      extends?_of_dvd (j := 1) (by omega) (by omega)
    have hsum : 0 < t.value + u.value := by omega
    rw [List.foldl_cons, read_part (hextends (by omega)) (by omega) (by omega) (by omega),
      List.foldl_cons, read_part hfits hpos (by omega) (by omega)]
    simp [hsum, Nat.add_assoc]

/-- A number of hundreds is read from nothing. -/
theorem foldl_read_hundreds (h : SpellsHundreds n tokens) (hcurrent : f.current = 0) :
    tokens.foldl read f =
      { f with current := 100 * n, pending := f.pending || decide (0 < n) } := by
  cases h with
  | none =>
    obtain ⟨finished, total, current, pending, connector⟩ := f
    obtain rfl : current = 0 := hcurrent
    simp
  | @whole t _ ht hlow hhigh =>
    have hpos : 0 < n := hlow
    rw [List.foldl_cons, List.foldl_nil]
    -- one hundred is read as a magnitude, and more of them as a value
    by_cases hone : n = 1
    · rw [read_hundred (by omega) (by omega), hcurrent, hone]
      simp
    · have hextends : extends? f.current t.value = true := by
        rw [hcurrent]
        rfl
      rw [read_part hextends (by omega) (by omega) (by omega), hcurrent, ht]
      simp [hpos]
  | @counted t _ tokens hcount hpos ht =>
    have hlt := hcount.lt
    have hmax : max n 1 * 100 = 100 * n := by omega
    rw [List.foldl_append, foldl_read_units hcount (by omega), List.foldl_cons, List.foldl_nil,
      hcurrent, Nat.zero_add, read_hundred ht hlt, hmax]
    simp [hpos]

/-- A number below ten thousand is read from nothing. -/
theorem foldl_read_spelled (h : SpellsNumber n tokens) (hcurrent : f.current = 0) :
    tokens.foldl read f = { f with current := n, pending := f.pending || decide (0 < n) } := by
  obtain @⟨hundreds, units, front, back, hfront, hback⟩ := h
  have hpending : (decide (0 < hundreds) || decide (0 < units)) =
      decide (0 < 100 * hundreds + units) := by
    rw [← Bool.decide_or, decide_eq_decide]
    omega
  rw [List.foldl_append, foldl_read_hundreds hfront hcurrent,
    foldl_read_units hback (Nat.dvd_mul_right 100 hundreds), Bool.or_assoc, hpending]

end Spellings

end Fold

/-! ## Spellings as numbers -/

section Numerals

variable {count rest : Nat} {front back : List Token} {t : Token}

/-- A spelling on its own is one number. -/
theorem numerals_of_spells (hrest : 0 < rest) (hback : SpellsNumber rest back) :
    numerals back = [⟨none, rest⟩] := by
  have hcapped : capped rest = rest := capped_of_lt (Nat.lt_trans hback.lt (by decide))
  rw [numerals, Fold.foldl_read_spelled hback rfl]
  simp [Fold.flush, Fold.emit, hrest, hcapped]

/-- Two spellings with a magnitude between them are one number. -/
theorem numerals_of_magnitude (hfront : SpellsNumber count front) (ht : 1000 ≤ t.value)
    (hback : SpellsNumber rest back) :
    numerals (front ++ t :: back) = [⟨none, capped (max count 1 * t.value + rest)⟩] := by
  rw [numerals, List.foldl_append, Fold.foldl_read_spelled hfront rfl, List.foldl_cons,
    Fold.read_magnitude ht rfl, Fold.foldl_read_spelled hback rfl]
  simp [Fold.flush, Fold.emit, capped_capped_add]

/-- One number is written as its digits. -/
theorem foldText_of_numerals {n : Nat} {tokens : List Token} {connector : Option (List Char)}
    (h : numerals tokens = [⟨connector, n⟩]) : foldText tokens = Nat.toDigits 10 n := by
  rw [foldText, h]
  simp [numeralsText, furtherText]

/-- A spelled number times a magnitude, or the magnitude alone, and a spelled number behind it are
written as their sum, if that is not beyond the largest value; and so is the second number where it
stands alone. -/
theorem foldText_spelled (hfront : SpellsNumber count front) (ht : 1000 ≤ t.value)
    (hback : SpellsNumber rest back) :
    foldText (front ++ t :: back) =
        Nat.toDigits 10 (min ((if front = [] then 1 else count) * t.value + rest) (2 ^ 64 - 1)) ∧
      (back ≠ [] → foldText back = Nat.toDigits 10 rest) := by
  have hcount : max count 1 = if front = [] then 1 else count := by
    split
    · rename_i hnone
      rw [hfront.eq_nil_iff.mp hnone]
      rfl
    · rename_i hsome
      exact Nat.max_eq_left (Nat.pos_of_ne_zero fun hzero => hsome (hfront.eq_nil_iff.mpr hzero))
  refine ⟨?_, fun hsome => ?_⟩
  · rw [← hcount]
    exact foldText_of_numerals (numerals_of_magnitude hfront ht hback)
  · have hrest : 0 < rest :=
      Nat.pos_of_ne_zero fun hzero => hsome (hback.eq_nil_iff.mpr hzero)
    exact foldText_of_numerals (numerals_of_spells hrest hback)

/-- `twenty five hundred and six` times a million of millions of millions is beyond the largest
value, so that the `nine hundred and ninety` behind it are lost; alone they are `990`. -/
theorem foldText_spelled_beyond :
    SpellsNumber 2506 [⟨20, none⟩, ⟨5, none⟩, ⟨100, none⟩, ⟨6, some "and".toList⟩] ∧
      1000 ≤ 10 ^ 18 ∧
      SpellsNumber 990 [⟨9, none⟩, ⟨100, none⟩, ⟨90, some "and".toList⟩] ∧
      foldText ([⟨20, none⟩, ⟨5, none⟩, ⟨100, none⟩, ⟨6, some "and".toList⟩] ++ ⟨10 ^ 18, none⟩ ::
        [⟨9, none⟩, ⟨100, none⟩, ⟨90, some "and".toList⟩]) = "18446744073709551615".toList ∧
      [⟨9, none⟩, ⟨100, none⟩, ⟨90, some "and".toList⟩] ≠ ([] : List Token) ∧
      foldText [⟨9, none⟩, ⟨100, none⟩, ⟨90, some "and".toList⟩] = "990".toList := by
  have htwentyFive : SpellsUnits 25 [⟨20, none⟩, ⟨5, none⟩] :=
    .tens (t := ⟨20, none⟩) (u := ⟨5, none⟩) (d := 2) rfl (by decide) (by decide) (by decide)
      (by decide)
  have hsix : SpellsUnits 6 [⟨6, some "and".toList⟩] :=
    .whole (t := ⟨6, _⟩) (by decide) (by decide)
  have hnine : SpellsUnits 9 [⟨9, none⟩] := .whole (t := ⟨9, _⟩) (by decide) (by decide)
  have hninety : SpellsUnits 90 [⟨90, some "and".toList⟩] :=
    .whole (t := ⟨90, _⟩) (by decide) (by decide)
  have hfront := SpellsNumber.intro (.counted htwentyFive (by decide) (t := ⟨100, none⟩) rfl) hsix
  have hback := SpellsNumber.intro (.counted hnine (by decide) (t := ⟨100, none⟩) rfl) hninety
  have hmagnitude : 1000 ≤ 10 ^ 18 := by decide
  have hne := List.cons_ne_nil (⟨9, none⟩ : Token) [⟨100, none⟩, ⟨90, some "and".toList⟩]
  obtain ⟨hall, hrest⟩ := foldText_spelled (t := ⟨10 ^ 18, none⟩) hfront hmagnitude hback
  exact ⟨hfront, hmagnitude, hback, hall.trans (by decide), hne, (hrest hne).trans (by decide)⟩

end Numerals

end CalcSpeech.NumberWord
