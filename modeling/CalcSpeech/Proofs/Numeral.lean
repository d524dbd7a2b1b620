import CalcSpeech.PercentPhrase
import CalcSpeech.Proofs.Expression
import CalcSpeech.Proofs.NumeralMark
import CalcSpeech.Proofs.Unicode.Spoken
import CalcSpeech.Proofs.Text.Places

/-!
# Numerals

Unsigned numerals in the digits of any script, with a period before the decimals if there are any,
and how they are read as operands.
-/

namespace CalcSpeech

open Unicode Pattern

/-- Digits, at least one. -/
def IsDigits (ds : List Char) : Prop := ds ≠ [] ∧ ∀ c ∈ ds, isDecimalDigit c = true

/-- An unsigned numeral. -/
inductive IsNumeral : List Char → Prop
  | whole {ds} : IsDigits ds → IsNumeral ds
  | decimal {ds es} : IsDigits ds → IsDigits es → IsNumeral (ds ++ '.' :: es)

theorem reads_digits {b : Option Char} {w a : List Char} {k : List (Nat × List Char)} :
    (atLeastOne digit).Reads b w a k ↔ IsDigits w ∧ k = [] := by
  unfold digit
  rw [reads_atLeastOne_char, IsDigits, and_assoc]

/-- Digits from `0` to `9`, at least one. -/
def IsPlainDigits (ds : List Char) : Prop := ds ≠ [] ∧ ∀ c ∈ ds, c.isDigit = true

/-- A number is written with such digits. -/
theorem isPlainDigits_toDigits (n : Nat) : IsPlainDigits (Nat.toDigits 10 n) :=
  ⟨Nat.toDigits_ne_nil, fun _ hc => Nat.isDigit_of_mem_toDigits (by omega) (by omega) hc⟩

theorem isDecimalDigit_of_isDigit {c : Char} (h : c.isDigit = true) : isDecimalDigit c = true := by
  have hascii : c.toNat < 0x80 := by
    rw [Char.isDigit, Bool.and_eq_true, decide_eq_true_eq, decide_eq_true_eq] at h
    have hhigh : c.toNat ≤ 0x39 := UInt32.le_iff_toNat_le.mp h.2
    omega
  rw [isDecimalDigit, if_pos hascii]
  exact h

/-- A letter is no digit. -/
theorem isDigit_of_isLetter {c : Char} (h : isLetter c = true) : c.isDigit = false := by
  rw [Bool.eq_false_iff]
  intro hdigit
  rw [isLetter_of_isDecimalDigit (isDecimalDigit_of_isDigit hdigit)] at h
  exact Bool.false_ne_true h

theorem IsPlainDigits.isDigits {ds : List Char} (h : IsPlainDigits ds) : IsDigits ds :=
  ⟨h.1, fun c hc => isDecimalDigit_of_isDigit (h.2 c hc)⟩

section Numerals

variable {n : List Char}

/-- The characters of a numeral. -/
theorem IsNumeral.mem (h : IsNumeral n) {c : Char} (hc : c ∈ n) :
    isDecimalDigit c = true ∨ c = '.' := by
  cases h with
  | whole hds => exact Or.inl (hds.2 c hc)
  | decimal hds hes =>
    rcases List.mem_append.mp hc with hc | hc
    · exact Or.inl (hds.2 c hc)
    · rcases List.mem_cons.mp hc with hc | hc
      · exact Or.inr hc
      · exact Or.inl (hes.2 c hc)

/-- A numeral begins with a digit. -/
theorem IsNumeral.cons (h : IsNumeral n) : ∃ d ds, n = d :: ds ∧ isDecimalDigit d = true := by
  cases h with
  | whole hds =>
    obtain ⟨d, ds, rfl⟩ := List.exists_cons_of_ne_nil hds.1
    exact ⟨d, ds, rfl, hds.2 d (by simp)⟩
  | decimal hds _ =>
    obtain ⟨d, ds, rfl⟩ := List.exists_cons_of_ne_nil hds.1
    exact ⟨d, _, List.cons_append, hds.2 d (by simp)⟩

theorem IsNumeral.ne_nil (h : IsNumeral n) : n ≠ [] := by
  obtain ⟨d, ds, rfl, -⟩ := h.cons
  exact List.cons_ne_nil d ds

/-- No character of a class without digits and the period is in a numeral. -/
theorem IsNumeral.forall_eq_false (h : IsNumeral n) {f : Char → Bool} (hpoint : f '.' = false)
    (hdigit : ∀ c, isDecimalDigit c = true → f c = false) : ∀ c ∈ n, f c = false := by
  intro c hc
  rcases h.mem hc with hd | rfl
  · exact hdigit c hd
  · exact hpoint

/-- A character that is no digit is told from the digits. -/
theorem beq_eq_false_of_digit {d : Char} (hd : isDecimalDigit d = false) (c : Char)
    (hc : isDecimalDigit c = true) : (c == d) = false := by
  rw [beq_eq_false_iff_ne]
  intro h
  rw [h, hd] at hc
  exact Bool.false_ne_true hc

theorem IsNumeral.solid (h : IsNumeral n) : ∀ c ∈ n, isBlank c = false :=
  h.forall_eq_false (by decide) fun _ => isBlank_of_isDecimalDigit

theorem IsNumeral.isToken (h : IsNumeral n) : IsToken n :=
  Or.inr (h.forall_eq_false (by decide) fun _ => isLetter_of_isDecimalDigit)

/-- A numeral is no word, whatever stands behind it. -/
theorem IsNumeral.append_ne_word (h : IsNumeral n) {t : List Char} (ht : IsWord t)
    (a : List Char) : n ++ a ≠ t := by
  rintro rfl
  obtain ⟨d, ds, rfl, hd⟩ := h.cons
  have hletter := ht.2 d (by simp)
  rw [isLetter_of_isDecimalDigit hd] at hletter
  exact Bool.false_ne_true hletter

theorem IsNumeral.ne_word (h : IsNumeral n) {t : List Char} (ht : IsWord t) : t ≠ n := by
  rintro rfl
  exact h.append_ne_word ht [] (List.append_nil t)

theorem isDecimalDigit_comma : isDecimalDigit ',' = false := by decide

/-- A numeral is already without blanks and commas. -/
theorem IsNumeral.plainOperand_eq (h : IsNumeral n) : PercentPhrase.plainOperand n = n := by
  have hfilter : n.filter (!isBlank ·) = n := by
    rw [List.filter_eq_self]
    intro c hc
    rw [h.solid c hc]
    rfl
  have hmap : n.map (fun c => if c = ',' then '.' else c) = n := by
    rw [List.map_congr_left (g := id), List.map_id]
    intro c hc
    have hcomma : (c == ',') = false :=
      h.forall_eq_false (f := (· == ',')) (by decide)
        (beq_eq_false_of_digit isDecimalDigit_comma) c hc
    rw [if_neg (by simpa using hcomma)]
    rfl
  rw [PercentPhrase.plainOperand, hfilter, hmap]

/-- A period without a digit on either side of it stands here. -/
def ExposedPointAt (before : Option Char) (rest : List Char) : Prop :=
  ∃ r, rest = '.' :: r ∧
    (before.any isDecimalDigit = false ∨ r.head?.any isDecimalDigit = false)

theorem ExposedPointAt.head {b : Option Char} {rest : List Char} (h : ExposedPointAt b rest) :
    rest.head? = some '.' := by
  obtain ⟨r, rfl, -⟩ := h
  rfl

/-- A full stop has no digit behind it. -/
theorem ExposedPointAt.of_stop {b : Option Char} {rest : List Char}
    (h : Expression.StopAt b rest) : ExposedPointAt b rest := by
  obtain ⟨r, rfl, hblank⟩ := h
  refine ⟨r, rfl, Or.inr ?_⟩
  cases hr : r.head? with
  | none => rfl
  | some c => exact isDecimalDigit_of_isBlank (by simpa [hr] using hblank)

/-- A period with a blank at its side has no digit there. -/
theorem ExposedPointAt.of_loose {b : Option Char} {rest : List Char}
    (h : NumeralMark.LoosePointAt b rest) : ExposedPointAt b rest := by
  have hside {side : Option Char} (hs : side.any isBlank = true) :
      side.any isDecimalDigit = false := by
    cases side with
    | none => rfl
    | some c => exact isDecimalDigit_of_isBlank hs
  obtain ⟨r, rfl, hblank⟩ := h
  rcases hblank with hb | hr
  · exact ⟨r, rfl, Or.inl (hside hb)⟩
  · exact ⟨r, rfl, Or.inr (hside hr)⟩

/-- The period of a numeral stands between digits. -/
theorem IsNumeral.nowhere_exposed (h : IsNumeral n) {b : Option Char} {a : List Char} :
    Nowhere ExposedPointAt b n a := by
  have hdigits {ds : List Char} (hds : IsDigits ds) {b : Option Char} {a : List Char} :
      Nowhere ExposedPointAt b ds a := by
    apply nowhere_of_not_mem fun _ _ => ExposedPointAt.head
    intro hpoint
    exact absurd (hds.2 '.' hpoint) (by decide)
  cases h with
  | whole hds => exact hdigits hds
  | @decimal ds es hds hes =>
    rw [nowhere_append, nowhere_cons]
    refine ⟨hdigits hds, ?_, hdigits hes⟩
    intro ⟨r, hr, hside⟩
    obtain ⟨-, rfl⟩ := List.cons.inj hr
    rcases hside with hbefore | hbehind
    · rw [any_behind_of_ne_nil b hds.1 hds.2] at hbefore
      exact Bool.noConfusion hbefore
    · obtain ⟨d, es, rfl⟩ := List.exists_cons_of_ne_nil hes.1
      rw [List.cons_append, List.head?_cons, Option.any_some, hes.2 d (by simp)] at hbehind
      exact Bool.noConfusion hbehind

/-! ## Operands -/

/-- What cannot go on an operand. -/
def EndsOperand (a : List Char) : Prop :=
  a.head?.any (fun c => isDecimalDigit c || c == '.' || c == ',') = false

theorem EndsOperand.digit {a : List Char} (h : EndsOperand a) :
    a.head?.any isDecimalDigit = false := by
  unfold EndsOperand at h
  cases ha : a.head? with
  | none => rfl
  | some c => simp_all

theorem EndsOperand.mark {a : List Char} (h : EndsOperand a) :
    a.head?.any (fun c => c == '.' || c == ',') = false := by
  unfold EndsOperand at h
  cases ha : a.head? with
  | none => rfl
  | some c => simp_all

/-- What is read as an operand comes to a numeral, whichever mark it has. -/
theorem isNumeral_plainOperand {b : Option Char} {w a : List Char} {k : List (Nat × List Char)}
    (h : operand.Reads b w a k) : IsNumeral (PercentPhrase.plainOperand w) := by
  obtain ⟨ds, v, kd, kv, rfl, rfl, hd, hv⟩ := reads_inOrder_cons.mp h
  obtain ⟨hds, rfl⟩ := reads_digits.mp hd
  rcases reads_optional.mp hv with hmarked | ⟨rfl, rfl⟩
  · obtain ⟨m, es, km, ke, rfl, rfl, hm, he⟩ := reads_inOrder_cons.mp hmarked
    obtain ⟨hes, rfl⟩ := reads_digits.mp he
    cases hm with
    | @char _ _ c _ hc =>
      have hnumeral : IsNumeral (ds ++ '.' :: es) := .decimal hds hes
      have hself := hnumeral.plainOperand_eq
      have hmark : c = '.' ∨ c = ',' := by simpa using hc
      rcases hmark with rfl | rfl
      · show IsNumeral (PercentPhrase.plainOperand (ds ++ '.' :: es))
        rwa [hself]
      · have hcomma : PercentPhrase.plainOperand (ds ++ ',' :: es) =
            PercentPhrase.plainOperand (ds ++ '.' :: es) := by
          simp [PercentPhrase.plainOperand, show isBlank ',' = false by decide,
            show isBlank '.' = false by decide]
        show IsNumeral (PercentPhrase.plainOperand (ds ++ ',' :: es))
        rwa [hcomma, hself]
  · rw [List.append_nil, (IsNumeral.whole hds).plainOperand_eq]
    exact .whole hds

/-- A numeral with a mark, where there is a period for it, ends first behind the whole numeral. -/
theorem first_numeral {f : Char → Bool} (hpoint : f '.' = true) (h : IsNumeral n) {s : Spot}
    {a : List Char} (hs : s.rest = n ++ a) (hdigit : a.head?.any isDecimalDigit = false)
    (hmark : a.head?.any f = false) :
    (inOrder [atLeastOne digit, optional (inOrder [char f, atLeastOne digit])]).First s
      (past s n a []) := by
  have hfraction {t : Spot} (ht : ¬ t.rest.head?.any f = true) :
      (inOrder [char f, atLeastOne digit]).spots t = [] :=
    (opens_char.seq (q := atLeastOne digit)).spots_eq_nil ht
  cases h with
  | whole hds =>
    have hdigits : (atLeastOne digit).First s (past s n a []) :=
      first_atLeastOne_char hds.1 hds.2 hdigit hs
    refine First.seq hdigits (first_optional_self (hfraction ?_))
    show ¬ a.head?.any f = true
    rw [hmark]
    exact Bool.false_ne_true
  | @decimal ds es hds hes =>
    have hstop : ('.' :: es ++ a).head?.any isDecimalDigit = false := by
      show isDecimalDigit '.' = false
      decide
    rw [List.append_assoc] at hs
    have hdigits : (atLeastOne digit).First s (past s ds ('.' :: es ++ a) []) :=
      first_atLeastOne_char hds.1 hds.2 hstop hs
    have hpart : (char f).First (past s ds ('.' :: es ++ a) [])
        (past (past s ds ('.' :: es ++ a) []) ['.'] (es ++ a) []) :=
      first_char hpoint rfl
    have hdecimals : (atLeastOne digit).First
        (past (past s ds ('.' :: es ++ a) []) ['.'] (es ++ a) [])
        (past (past (past s ds ('.' :: es ++ a) []) ['.'] (es ++ a) []) es a []) :=
      first_atLeastOne_char hes.1 hes.2 hdigit rfl
    have hrow := First.seq hdigits (First.left (q := Pattern.empty) (First.seq hpart hdecimals))
    have htext : ds ++ (['.'] ++ es) = ds ++ '.' :: es := rfl
    rw [past_past, past_past, List.append_assoc, htext] at hrow
    exact hrow

/-- An operand ends first behind the whole numeral. -/
theorem first_operand (h : IsNumeral n) {s : Spot} {a : List Char} (hs : s.rest = n ++ a)
    (ha : EndsOperand a) : operand.First s (past s n a []) :=
  first_numeral (by decide) h hs ha.digit ha.mark

theorem prefers_operand (h : IsNumeral n) {b : Option Char} {a : List Char} (ha : EndsOperand a) :
    operand.Prefers b n a [] :=
  prefers_of_first fun _ _ hs => first_operand h hs ha

end Numerals

end CalcSpeech
