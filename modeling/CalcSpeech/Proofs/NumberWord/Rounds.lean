import CalcSpeech.Proofs.NumberWord.Groups
import CalcSpeech.Proofs.Numeral

/-!
# Lists of round numbers

A list of round numbers is dictated as units with one magnitude behind each of them. From a
thousand on a second magnitude ends the number before it and takes its own unit along, so that the
list stays a list (`foldText_rounds`). A second hundred only begins anew: its unit was added to the
number before it and stays there (`foldText_hundreds`), so that of hundreds no list of more than one
stays what it was (`foldText_hundreds_iff`).
-/

namespace CalcSpeech.NumberWord

open Unicode Text

/-- The tokens of a list of round numbers, each a unit and the magnitude behind it. -/
def rounds (magnitude : Nat) (units : List Nat) : List Token :=
  units.flatMap fun unit => [⟨unit, none⟩, ⟨magnitude, none⟩]

/-- Numbers without connectors are written with single spaces between them. -/
theorem numeralsText_plain (values : List Nat) :
    numeralsText (values.map (⟨none, ·⟩)) = join [' '] (values.map (Nat.toDigits 10)) := by
  cases values with
  | nil => rfl
  | cons value values =>
    induction values generalizing value with
    | nil => exact List.append_nil _
    | cons next values ih =>
      have hnext := ih next
      simp only [List.map_cons, join_cons_cons] at hnext ⊢
      rw [← hnext]
      rfl

/-- Numbers that are written with single spaces between them can be told from the text. -/
theorem eq_of_join_toDigits {xs ys : List Nat}
    (h : join [' '] (xs.map (Nat.toDigits 10)) = join [' '] (ys.map (Nat.toDigits 10))) :
    xs = ys := by
  have hwords (zs : List Nat) :
      words (join [' '] (zs.map (Nat.toDigits 10))) = zs.map (Nat.toDigits 10) := by
    apply words_join
    intro p hp
    obtain ⟨n, -, rfl⟩ := List.mem_map.mp hp
    have hdigits := (isPlainDigits_toDigits n).isDigits
    exact ⟨hdigits.1, fun c hc => isBlank_of_isDecimalDigit (hdigits.2 c hc)⟩
  have hinjective : Function.Injective (Nat.toDigits 10) := by
    intro m n hmn
    rw [← Nat.ofDigitChars_ten_toDigits (n := m), hmn, Nat.ofDigitChars_ten_toDigits]
  have hdigits := congrArg words h
  rw [hwords, hwords] at hdigits
  exact List.map_injective_iff.mpr hinjective hdigits

namespace Fold

/-! ## Lists behind a number under way -/

section Lists

variable {units : List Nat} (hunits : ∀ unit ∈ units, 0 < unit ∧ unit ≤ 9)

include hunits

/-- Round numbers from a thousand on behind another one stay apart. -/
theorem finished_rounds {magnitude : Nat} (hmagnitude : 1000 ≤ magnitude)
    (hlimit : ∀ unit ∈ units, unit * magnitude ≤ valueLimit) {total : Nat} (htotal : 0 < total)
    (hfirst : total ≤ valueLimit) (finished : List Numeral) :
    ((rounds magnitude units).foldl read ⟨finished, total, 0, true, none⟩).flush.finished.reverse =
      finished.reverse ++ (total :: units.map (· * magnitude)).map (⟨none, ·⟩) := by
  induction units generalizing total finished with
  | nil => simp [rounds, flush, emit, capped, hfirst]
  | cons unit units ih =>
    obtain ⟨⟨hpos, hnine⟩, hunits⟩ := List.forall_mem_cons.mp hunits
    obtain ⟨hvalue, hlimit⟩ := List.forall_mem_cons.mp hlimit
    have hunit : (⟨finished, total, 0, true, none⟩ : Fold).read ⟨unit, none⟩ =
        ⟨finished, total, unit, true, none⟩ := by
      rw [read_part rfl hpos (show unit < 1000 by omega) (show unit ≠ 100 by omega)]
      simp
    have hround : (⟨finished, total, unit, true, none⟩ : Fold).read ⟨magnitude, none⟩ =
        ⟨⟨none, total⟩ :: finished, unit * magnitude, 0, true, none⟩ := by
      rw [read_second_magnitude hmagnitude htotal rfl]
      simp [capped, hfirst, Nat.max_eq_left hpos, hvalue]
    have hrest := ih hunits hlimit (Nat.mul_pos hpos (by omega)) hvalue (⟨none, total⟩ :: finished)
    rw [rounds, List.flatMap_cons, List.cons_append, List.foldl_cons, hunit, List.cons_append,
      List.foldl_cons, hround, List.nil_append]
    exact hrest.trans (by simp)

end Lists

end Fold

/-- The numbers that hundreds are read as behind a number of hundreds: each but the first keeps a
hundred and its unit goes to the one before. -/
def carried : (value : Nat) → (units : List Nat) → List Nat
  | value, [] => [value]
  | value, unit :: units => (value + unit) :: carried 100 units

theorem Fold.finished_hundreds {units : List Nat} (hunits : ∀ unit ∈ units, 0 < unit ∧ unit ≤ 9)
    {hundreds : Nat} (hpos : 0 < hundreds) (hnine : hundreds ≤ 9) (finished : List Numeral) :
    ((rounds 100 units).foldl read
        ⟨finished, 0, 100 * hundreds, true, none⟩).flush.finished.reverse =
      finished.reverse ++ (carried (100 * hundreds) units).map (⟨none, ·⟩) := by
  induction units generalizing hundreds finished with
  | nil =>
    have hcapped : capped (100 * hundreds) = 100 * hundreds := capped_of_lt (by omega)
    simp [rounds, carried, flush, emit, hcapped]
  | cons unit units ih =>
    obtain ⟨⟨hunit, hlast⟩, hunits⟩ := List.forall_mem_cons.mp hunits
    have hextends : extends? (100 * hundreds) unit = true :=
      extends?_of_dvd (j := 2) (Nat.dvd_mul_right 100 hundreds) (by omega)
    have hadded : (⟨finished, 0, 100 * hundreds, true, none⟩ : Fold).read ⟨unit, none⟩ =
        ⟨finished, 0, 100 * hundreds + unit, true, none⟩ :=
      read_part hextends hunit (show unit < 1000 by omega) (show unit ≠ 100 by omega)
    have hcapped : capped (100 * hundreds + unit) = 100 * hundreds + unit :=
      capped_of_lt (by omega)
    have hround : (⟨finished, 0, 100 * hundreds + unit, true, none⟩ : Fold).read ⟨100, none⟩ =
        ⟨⟨none, 100 * hundreds + unit⟩ :: finished, 0, 100 * 1, true, none⟩ := by
      have hends : ¬ Continues (100 * hundreds + unit) ⟨100, none⟩ := by
        show ¬ 100 * hundreds + unit < 100
        omega
      rw [read_next (show 0 < 100 by decide) (show 100 < 1000 by decide) hends]
      simp [flush, emit, hcapped]
    have hrest := ih hunits Nat.one_pos (by decide) (⟨none, 100 * hundreds + unit⟩ :: finished)
    rw [rounds, List.flatMap_cons, List.cons_append, List.foldl_cons, hadded, List.cons_append,
      List.foldl_cons, hround, List.nil_append]
    exact hrest.trans (by simp [carried])

section Text

variable {unit : Nat} {units : List Nat}

/-- A list of round numbers from a thousand on stays a list. -/
theorem foldText_rounds {magnitude : Nat} (hmagnitude : 1000 ≤ magnitude)
    (hunits : ∀ unit ∈ units, 0 < unit ∧ unit ≤ 9)
    (hlimit : ∀ unit ∈ units, unit * magnitude < 2 ^ 64) :
    foldText (rounds magnitude units) =
      join [' '] ((units.map (· * magnitude)).map (Nat.toDigits 10)) := by
  have hnumerals : numerals (rounds magnitude units) =
      (units.map (· * magnitude)).map (⟨none, ·⟩) := by
    cases units with
    | nil => rfl
    | cons unit units =>
      obtain ⟨⟨hpos, hnine⟩, hunits⟩ := List.forall_mem_cons.mp hunits
      have hlimits : ∀ unit' ∈ unit :: units, unit' * magnitude ≤ valueLimit :=
        fun unit' hmem => Nat.le_pred_of_lt (hlimit unit' hmem)
      obtain ⟨hvalue, hlimits⟩ := List.forall_mem_cons.mp hlimits
      have hunit : ({} : Fold).read ⟨unit, none⟩ = { current := unit, pending := true } := by
        rw [Fold.read_part rfl hpos (show unit < 1000 by omega) (show unit ≠ 100 by omega)]
        simp
      have hround : ({ current := unit, pending := true } : Fold).read ⟨magnitude, none⟩ =
          ⟨[], unit * magnitude, 0, true, none⟩ := by
        rw [Fold.read_magnitude hmagnitude rfl]
        simp [capped, Nat.max_eq_left hpos, hvalue]
      rw [numerals, rounds, List.flatMap_cons, List.cons_append, List.foldl_cons, hunit,
        List.cons_append, List.foldl_cons, hround, List.nil_append]
      exact Fold.finished_rounds hunits hmagnitude hlimits (Nat.mul_pos hpos (by omega)) hvalue []
  rw [foldText, hnumerals, numeralsText_plain]

/-- In a list of hundreds every unit but the first is added to the number before it. -/
theorem foldText_hundreds (hpos : 0 < unit) (hnine : unit ≤ 9)
    (hunits : ∀ unit ∈ units, 0 < unit ∧ unit ≤ 9) :
    foldText (rounds 100 (unit :: units)) =
      join [' '] ((carried (100 * unit) units).map (Nat.toDigits 10)) := by
  have hone : SpellsNumber (100 * unit) [⟨unit, none⟩, ⟨100, none⟩] :=
    .intro (.counted (.whole (t := ⟨unit, none⟩) hpos (show unit < 100 by omega)) hpos rfl) .none
  have hstart := Fold.foldl_read_spelled (f := {}) hone rfl
  have hpending : (({} : Fold).pending || decide (0 < 100 * unit)) = true := by
    simp [hpos]
  rw [hpending] at hstart
  have hnumerals : numerals (rounds 100 (unit :: units)) =
      (carried (100 * unit) units).map (⟨none, ·⟩) := by
    rw [numerals, rounds, List.flatMap_cons, List.foldl_append, hstart]
    exact Fold.finished_hundreds hunits hpos hnine []
  rw [foldText, hnumerals, numeralsText_plain]

example : foldText (rounds 100 [2, 3, 4]) = "203 104 100".toList := by decide

/-- A list of hundreds stays a list only if it has one number. -/
theorem foldText_hundreds_iff (hpos : 0 < unit) (hnine : unit ≤ 9)
    (hunits : ∀ unit ∈ units, 0 < unit ∧ unit ≤ 9) :
    foldText (rounds 100 (unit :: units)) =
      join [' '] (((unit :: units).map (100 * ·)).map (Nat.toDigits 10)) ↔ units = [] := by
  rw [foldText_hundreds hpos hnine hunits]
  constructor
  · intro h
    cases units with
    | nil => rfl
    | cons next units =>
      obtain ⟨hnext, -⟩ := List.forall_mem_cons.mp hunits
      have hfirst : 100 * unit + next = 100 * unit := (List.cons.inj (eq_of_join_toDigits h)).1
      omega
  · rintro rfl
    rfl

end Text

end CalcSpeech.NumberWord
