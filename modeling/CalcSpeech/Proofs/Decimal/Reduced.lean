import CalcSpeech.Proofs.Decimal

/-!
# Reduced numerals

A numeral is reduced when none of its characters can be left out: it has no zero in front of other
digits, none behind its decimals, and no point without decimals. Every decimal is written so
(`Decimal.isReduced_text`), and each number has one reduced numeral (`IsReduced.unique`).
-/

namespace CalcSpeech

/-- Digits in front of a point and behind it, none of which can be left out. -/
structure AreReduced (ds es : List Char) : Prop where
  whole : IsPlainDigits ds
  decimals : ∀ c ∈ es, c.isDigit = true
  leading : ds.head? = some '0' → ds = ['0']
  trailing : es.getLast? ≠ some '0'

/-- The reduced numerals and their values. -/
inductive IsReduced : List Char → ℚ → Prop
  | mk {ds es} : AreReduced ds es →
      IsReduced (withDecimals '.' ds es) (Nat.ofDigitChars 10 (ds ++ es) 0 / 10 ^ es.length)

/-! ## Digits by their values -/

section Digits

variable {ds es : List Char}

theorem ofDigitChars_cons (c : Char) (ds : List Char) : Nat.ofDigitChars 10 (c :: ds) 0 =
    (c.toNat - '0'.toNat) * 10 ^ ds.length + Nat.ofDigitChars 10 ds 0 := by
  rw [Nat.ofDigitChars_cons, Nat.ofDigitChars_eq_ofDigitChars_zero, Nat.mul_zero, Nat.zero_add,
    Nat.mul_comm]

theorem toNat_of_isDigit {c : Char} (h : c.isDigit = true) :
    '0'.toNat ≤ c.toNat ∧ c.toNat ≤ '9'.toNat := by
  rw [Char.isDigit, Bool.and_eq_true, decide_eq_true_eq, decide_eq_true_eq] at h
  exact ⟨UInt32.le_iff_toNat_le.mp h.1, UInt32.le_iff_toNat_le.mp h.2⟩

theorem ofDigitChars_lt (hds : ∀ c ∈ ds, c.isDigit = true) :
    Nat.ofDigitChars 10 ds 0 < 10 ^ ds.length := by
  induction ds with
  | nil => simp
  | cons c ds ih =>
    obtain ⟨hc, hrest⟩ := List.forall_mem_cons.mp hds
    have hnine : c.toNat - '0'.toNat ≤ 9 := by
      have hhigh := (toNat_of_isDigit hc).2
      have hends : '9'.toNat = '0'.toNat + 9 := by decide
      omega
    have hlater := ih hrest
    have hfirst := Nat.mul_le_mul_right (10 ^ ds.length) hnine
    rw [ofDigitChars_cons, List.length_cons, pow_succ]
    omega

/-- What is counted in units and what is left are told apart. -/
theorem eq_of_units {n a b r s : Nat} (hr : r < n) (hs : s < n) (h : a * n + r = b * n + s) :
    a = b ∧ r = s := by
  have hpos : 0 < n := by omega
  have hdiv := congrArg (· / n) h
  have hmod := congrArg (· % n) h
  simp only [Nat.mul_comm _ n, Nat.mul_add_div hpos, Nat.mul_add_mod, Nat.div_eq_of_lt hr,
    Nat.div_eq_of_lt hs, Nat.mod_eq_of_lt hr, Nat.mod_eq_of_lt hs, Nat.add_zero] at hdiv hmod
  exact ⟨hdiv, hmod⟩

/-- As many digits for the same value are the same digits. -/
theorem eq_of_ofDigitChars (hds : ∀ c ∈ ds, c.isDigit = true) (hes : ∀ c ∈ es, c.isDigit = true)
    (hlength : ds.length = es.length)
    (hvalue : Nat.ofDigitChars 10 ds 0 = Nat.ofDigitChars 10 es 0) : ds = es := by
  induction ds generalizing es with
  | nil => exact (List.length_eq_zero_iff.mp hlength.symm).symm
  | cons c ds ih =>
    obtain ⟨d, es, rfl⟩ := List.exists_cons_of_length_eq_add_one hlength.symm
    obtain ⟨hc, hds⟩ := List.forall_mem_cons.mp hds
    obtain ⟨hd, hes⟩ := List.forall_mem_cons.mp hes
    have hrest : ds.length = es.length := Nat.succ.inj hlength
    have hlt := ofDigitChars_lt hds
    rw [ofDigitChars_cons, ofDigitChars_cons, ← hrest] at hvalue
    obtain ⟨hfirst, hlater⟩ := eq_of_units hlt (hrest ▸ ofDigitChars_lt hes) hvalue
    have hlow := (toNat_of_isDigit hc).1
    have hlow' := (toNat_of_isDigit hd).1
    have hsame : c = d := Char.toNat_inj.mp (by omega)
    rw [hsame, ih hds hes hrest hlater]

theorem isDigit_replicate {k : Nat} : ∀ c ∈ List.replicate k '0', c.isDigit = true := by
  intro c hc
  rw [(List.mem_replicate.mp hc).2]
  decide

/-- No number is written with a zero in front of other digits. -/
theorem toDigits_of_head (n : Nat) (h : (Nat.toDigits 10 n).head? = some '0') :
    Nat.toDigits 10 n = ['0'] := by
  induction n using Nat.strongRecOn with
  | ind n ih =>
    by_cases hn : n < 10
    · rw [Nat.toDigits_of_lt_base hn] at h ⊢
      rw [Option.some.inj h]
    · rw [Nat.toDigits_of_base_le (by omega) (by omega),
        List.head?_append_of_ne_nil _ Nat.toDigits_ne_nil] at h
      have hzero := congrArg (Nat.ofDigitChars 10 · 0) (ih (n / 10) (by omega) h)
      rw [Nat.ofDigitChars_ten_toDigits] at hzero
      have hnone : Nat.ofDigitChars 10 ['0'] 0 = 0 := by decide
      omega

end Digits

/-! ## One reduced numeral for each number -/

namespace AreReduced

variable {ds es ds' es' : List Char}

/-- Whole digits without zeros in front of them go by their value. -/
theorem whole_eq (h : AreReduced ds es) (h' : AreReduced ds' es')
    (hvalue : Nat.ofDigitChars 10 ds 0 = Nat.ofDigitChars 10 ds' 0) : ds = ds' := by
  have hshorter {ds es ds' es' : List Char} (h : AreReduced ds es) (h' : AreReduced ds' es')
      (hvalue : Nat.ofDigitChars 10 ds 0 = Nat.ofDigitChars 10 ds' 0)
      (hle : ds.length ≤ ds'.length) : ds = ds' := by
    obtain ⟨k, hk⟩ := Nat.exists_eq_add_of_le hle
    have hpadded : List.replicate k '0' ++ ds = ds' := by
      refine eq_of_ofDigitChars (List.forall_mem_append.mpr ⟨isDigit_replicate, h.whole.2⟩)
        h'.whole.2 ?_ ?_
      · rw [List.length_append, List.length_replicate]
        omega
      · rw [Nat.ofDigitChars_append, Nat.ofDigitChars_replicate_zero, Nat.mul_zero, hvalue]
    cases k with
    | zero => exact hpadded
    | succ k =>
      -- a zero in front would be the only digit
      have hone := h'.leading (by rw [← hpadded]; rfl)
      have hlength := congrArg List.length hone
      have hpos := List.length_pos_iff.mpr h.whole.1
      rw [List.length_singleton] at hlength
      omega
  rcases Nat.le_total ds.length ds'.length with hle | hle
  · exact hshorter h h' hvalue hle
  · exact (hshorter h' h hvalue.symm hle).symm

/-- Digits without zeros at the ends go by their value. -/
theorem eq_of_value (h : AreReduced ds es) (h' : AreReduced ds' es')
    (hvalue : (Nat.ofDigitChars 10 (ds ++ es) 0 / 10 ^ es.length : ℚ) =
      Nat.ofDigitChars 10 (ds' ++ es') 0 / 10 ^ es'.length) : ds = ds' ∧ es = es' := by
  have hshorter {ds es ds' es' : List Char} (h : AreReduced ds es) (h' : AreReduced ds' es')
      (hvalue : (Nat.ofDigitChars 10 (ds ++ es) 0 / 10 ^ es.length : ℚ) =
        Nat.ofDigitChars 10 (ds' ++ es') 0 / 10 ^ es'.length)
      (hle : es.length ≤ es'.length) : ds = ds' ∧ es = es' := by
    obtain ⟨k, hk⟩ := Nat.exists_eq_add_of_le hle
    have hzeros : Nat.ofDigitChars 10 (es ++ List.replicate k '0') 0 =
        Nat.ofDigitChars 10 es 0 * 10 ^ k := by
      rw [Nat.ofDigitChars_append, Nat.ofDigitChars_replicate_zero, Nat.mul_comm]
    have hdigits := List.forall_mem_append.mpr ⟨h.decimals, isDigit_replicate (k := k)⟩
    have hlength : (es ++ List.replicate k '0').length = es'.length := by
      rw [List.length_append, List.length_replicate, hk]
    have hcross : Nat.ofDigitChars 10 (ds ++ es) 0 * 10 ^ es'.length =
        Nat.ofDigitChars 10 (ds' ++ es') 0 * 10 ^ es.length := by
      have hten (n : Nat) : (10 ^ n : ℚ) ≠ 0 := pow_ne_zero n (by norm_num)
      exact_mod_cast (div_eq_div_iff (hten es.length) (hten es'.length)).mp hvalue
    have hsame : Nat.ofDigitChars 10 (ds ++ es) 0 * 10 ^ k =
        Nat.ofDigitChars 10 (ds' ++ es') 0 := by
      rw [hk, pow_add, Nat.mul_comm (10 ^ es.length), ← Nat.mul_assoc] at hcross
      exact Nat.eq_of_mul_eq_mul_right (Nat.pow_pos (by omega)) hcross
    have hunits : Nat.ofDigitChars 10 ds 0 * 10 ^ es'.length +
        Nat.ofDigitChars 10 (es ++ List.replicate k '0') 0 =
        Nat.ofDigitChars 10 ds' 0 * 10 ^ es'.length + Nat.ofDigitChars 10 es' 0 := by
      rw [hzeros, ← Decimal.ofDigitChars_append, ← hsame, Decimal.ofDigitChars_append, hk, pow_add,
        Nat.add_mul, Nat.mul_assoc]
    have hlt := ofDigitChars_lt hdigits
    rw [hlength] at hlt
    obtain ⟨hwhole, hrest⟩ := eq_of_units hlt (ofDigitChars_lt h'.decimals) hunits
    refine ⟨h.whole_eq h' hwhole, ?_⟩
    have hpadded := eq_of_ofDigitChars hdigits h'.decimals hlength hrest
    cases k with
    | zero => simpa using hpadded
    | succ k =>
      refine absurd ?_ h'.trailing
      rw [← hpadded, List.replicate_succ', ← List.append_assoc, List.getLast?_concat]
  rcases Nat.le_total es.length es'.length with hle | hle
  · exact hshorter h h' hvalue hle
  · obtain ⟨hds, hes⟩ := hshorter h' h hvalue.symm hle
    exact ⟨hds.symm, hes.symm⟩

end AreReduced

namespace IsReduced

variable {n m : List Char} {x : ℚ}

/-- A reduced numeral is a numeral for its value. -/
theorem hasValue (h : IsReduced n x) : HasValue n x := by
  cases h with
  | @mk ds es h =>
    unfold withDecimals
    by_cases hempty : es = []
    · rw [if_pos hempty, hempty, List.append_nil, List.length_nil, pow_zero, div_one]
      exact .whole h.whole
    · rw [if_neg hempty]
      exact .decimal h.whole.2 ⟨hempty, h.decimals⟩

/-- A number has one reduced numeral. -/
theorem unique (hn : IsReduced n x) (hm : IsReduced m x) : n = m := by
  cases hn with
  | mk hn =>
    generalize hy : (_ / _ : ℚ) = y at hm
    cases hm with
    | mk hm =>
      obtain ⟨rfl, rfl⟩ := hn.eq_of_value hm hy
      rfl

end IsReduced

/-! ## The written form of a decimal -/

namespace Decimal

variable (d : Decimal)

theorem text_eq : d.text = withDecimals '.' (Nat.toDigits 10 d.whole) d.fractionDigits := by
  unfold text withDecimals
  by_cases h : d.fractionDigits = []
  · rw [h]
    exact List.append_nil _
  · rw [if_neg h, if_neg (by simpa using h)]

theorem areReduced : AreReduced (Nat.toDigits 10 d.whole) d.fractionDigits where
  whole := isPlainDigits_toDigits d.whole
  decimals := by
    by_cases hplaces : d.places = 0
    · rw [d.fractionDigits_of_whole hplaces]
      simp
    · obtain ⟨-, -, -, hdigits⟩ := d.exists_zeros hplaces
      exact hdigits
  leading := toDigits_of_head d.whole
  trailing := by
    intro hlast
    unfold fractionDigits at hlast
    rw [List.getLast?_reverse] at hlast
    generalize List.reverse (_ ++ _) = digits at hlast
    have hnot := List.head?_dropWhile_not (· == '0') digits
    rw [hlast] at hnot
    exact absurd hnot (by decide)

/-- A decimal is written as the reduced numeral for it. -/
theorem isReduced_text : IsReduced d.text d.value := by
  have htext := IsReduced.mk d.areReduced
  rw [← d.text_eq] at htext
  have hvalue := htext.hasValue.unique d.hasValue_text
  rwa [hvalue] at htext

end Decimal

end CalcSpeech
