import CalcSpeech.Proofs.Fraction.Reading

/-!
# The value of a fraction of a quantity

A fraction of a whole number keeps its value in every built-in language. A fraction of such a phrase
does not: its quantity is the first number behind the word for `of`, and what is left of the inner
phrase stands beside it as another operand (`normalize_portion`, `normalize_nested`).
-/

namespace CalcSpeech

open Expression FractionPhrase Text

/-- An integer as it is written: digits, with a minus sign in front if it is negative. -/
inductive IsInteger : List Char → ℤ → Prop
  | natural {ds} : IsPlainDigits ds → IsInteger ds (Nat.ofDigitChars 10 ds 0)
  | negative {ds} : IsPlainDigits ds → IsInteger ('-' :: ds) (-Nat.ofDigitChars 10 ds 0)

/-- A fraction as it is written or said, and its value. -/
inductive IsFraction : List Char → ℚ → Prop
  | written {i n k} : IsInteger i k → IsPlainDigits n → Nat.ofDigitChars 10 n 0 ≠ 0 →
      IsFraction (i ++ '/' :: n) (k / Nat.ofDigitChars 10 n 0)
  | said {i k w d} : IsInteger i k → (w, d) ∈ fractionWords →
      IsFraction (i ++ ' ' :: w.toList) (k / d)

/-- A number of fractions, each of the next and the last of a whole number, with the word `o` for
`of`, and the value of the phrase. -/
inductive IsPortion (o : List Char) : ℕ → List Char → ℚ → Prop
  | one {f q x} : IsFraction f x → IsPlainDigits q →
      IsPortion o 1 (f ++ ' ' :: (o ++ ' ' :: q)) (x * Nat.ofDigitChars 10 q 0)
  | more {count f t x y} : IsFraction f x → IsPortion o count t y →
      IsPortion o (count + 1) (f ++ ' ' :: (o ++ ' ' :: t)) (x * y)

/-- An integer is a sign and digits, and the sign goes over to every product with the digits. -/
theorem IsInteger.exists_sign {i : List Char} {k : ℤ} (h : IsInteger i k) :
    ∃ s m, i = s ++ m ∧ IsSign s ∧ IsPlainDigits m ∧
      ∀ e (y : ℚ), Denotes .product e (Nat.ofDigitChars 10 m 0 * y) →
        Denotes .sum (s ++ e) (k * y) := by
  cases h with
  | natural hds =>
    exact ⟨[], i, rfl, Or.inl rfl, hds, fun e y he => by simpa using Denotes.product he⟩
  | @negative ds hds =>
    refine ⟨['-'], ds, rfl, Or.inr rfl, hds, fun e y he => ?_⟩
    have hnegative := Denotes.negative he
    rw [← neg_mul] at hnegative
    simpa using hnegative

/-- The fraction words name no zeroth part. -/
theorem denominator_ne_zero {w : String} {d : ℕ} (h : (w, d) ∈ fractionWords) : d ≠ 0 := by
  have hall : ∀ e ∈ fractionWords, e.2 ≠ 0 := by decide
  exact hall _ h

/-- The formula for a fraction of a quantity stands for the product of the two. -/
theorem denotes_formula {m n q : List Char} (hm : IsPlainDigits m) (hn : IsPlainDigits n)
    (hzero : Nat.ofDigitChars 10 n 0 ≠ 0) (hq : IsPlainDigits q) :
    Denotes .product (formula m n q) (Nat.ofDigitChars 10 m 0 *
      ((Nat.ofDigitChars 10 n 0 : ℚ)⁻¹ * Nat.ofDigitChars 10 q 0)) := by
  have hfraction : Denotes .product (m ++ '/' :: n)
      (Nat.ofDigitChars 10 m 0 / Nat.ofDigitChars 10 n 0) :=
    .divided (.factor (.numeral (.whole hm))) (.numeral (.whole hn)) (by exact_mod_cast hzero)
  have hproduct := Denotes.times
    (.spaceBehind (.factor (.enclosed (.product hfraction)))) (.spaceBefore (.numeral (.whole hq)))
  have hformula := Denotes.factor (.enclosed (.product hproduct))
  rw [div_eq_mul_inv, mul_assoc] at hformula
  simpa [formula] using hformula

/-- A fraction behind its sign, as phrases have it, and the value of a formula with it. -/
theorem IsFraction.exists_share {f : List Char} {x : ℚ} (h : IsFraction f x) :
    ∃ (s : List Char) (g : Share), IsSign s ∧ g.IsListed ∧ f = s ++ (g.count ++ g.behind) ∧
      ∀ q, IsPlainDigits q →
        Denotes .sum (s ++ formula g.count g.parts q) (x * Nat.ofDigitChars 10 q 0) := by
  cases h with
  | @written i n k hi hn hzero =>
    obtain ⟨s, m, rfl, hs, hm, hsum⟩ := hi.exists_sign
    refine ⟨s, .written m n, hs, ⟨hm, hn⟩, List.append_assoc _ _ _, fun q hq => ?_⟩
    rw [div_eq_mul_inv, mul_assoc]
    exact hsum _ _ (denotes_formula hm hn hzero hq)
  | @said i k w d hi hw =>
    obtain ⟨s, m, rfl, hs, hm, hsum⟩ := hi.exists_sign
    refine ⟨s, .said m w d, hs, ⟨hm, hw⟩, List.append_assoc _ _ _, fun q hq => ?_⟩
    have hformula := denotes_formula hm (isPlainDigits_toDigits d)
      (by rw [Nat.ofDigitChars_ten_toDigits]; exact denominator_ne_zero hw) hq
    rw [Nat.ofDigitChars_ten_toDigits] at hformula
    rw [div_eq_mul_inv, mul_assoc]
    exact hsum _ _ hformula

/-- A row of fractions of which no other than the first is negative is a phrase behind a sign. -/
theorem IsPortion.exists_phrase {o t : List Char} {count : ℕ} {x : ℚ} (h : IsPortion o count t x)
    (hminus : '-' ∉ t.tail) : ∃ (s : List Char) (fs : List Share) (q : List Char), IsSign s ∧
      (∀ f ∈ fs, f.IsListed) ∧ IsPlainDigits q ∧ fs.length = count ∧
      t = s ++ join [' '] (phrase o q fs) := by
  induction h with
  | @one f q x hf hq =>
    obtain ⟨s, g, hs, hg, rfl, -⟩ := hf.exists_share
    refine ⟨s, [g], q, hs, by simpa using hg, hq, rfl, ?_⟩
    rw [phrase, Share.join_tokens _ _ (phrase_ne_nil [])]
    simp [phrase, join, Share.link]
  | @more count f t x y hf ht ih =>
    have hbehind : '-' ∉ t := by
      intro hmem
      cases f <;> exact hminus (by simp [hmem])
    obtain ⟨s, g, hs, hg, rfl, -⟩ := hf.exists_share
    obtain ⟨s', fs, q, hs', hfs, hq, hlength, rfl⟩ := ih fun h => hbehind (List.mem_of_mem_tail h)
    obtain rfl : s' = [] := by
      refine hs'.resolve_right ?_
      rintro rfl
      exact hbehind (by simp)
    refine ⟨s, g :: fs, q, hs, List.forall_mem_cons.mpr ⟨hg, hfs⟩, hq, by simp [hlength], ?_⟩
    rw [phrase, Share.join_tokens _ _ (phrase_ne_nil fs)]
    simp [Share.link]

section Values

variable {pack : LanguagePack} (hpack : pack ∈ builtinPacks) {o : String}
  (ho : o ∈ pack.words .ofWords) {t : List Char} {count : ℕ} {x : ℚ}

include hpack ho

/-- A fraction of a whole number keeps its value. Of more than one fraction, none of them negative
but perhaps the first, two operands are left side by side, which is no expression. -/
theorem normalize_portion (ht : IsPortion o.toList count t x) (hlength : t.length ≤ 1000) :
    ∃ e, (Lexicon.ofPack pack).map (·.normalize t) = .ok e ∧ (count = 1 → Denotes .sum e x) ∧
      (1 < count → '-' ∉ t.tail → ∀ l y, ¬ Denotes l e y) := by
  obtain ⟨lexicon, hlexicon, hof⟩ := Lexicon.exists_of_mem hpack
  rw [hlexicon]
  refine ⟨lexicon.normalize t, rfl, ?_, fun hcount hminus l y => ?_⟩
  · rintro rfl
    cases ht with
    | @one f q x hf hq =>
      obtain ⟨s, g, hs, hg, rfl, hvalue⟩ := hf.exists_share
      have htext : s ++ (g.count ++ g.behind) ++ ' ' :: (o.toList ++ ' ' :: q) =
          s ++ join [' '] (phrase o.toList q [g]) := by
        rw [phrase, Share.join_tokens _ _ (phrase_ne_nil [])]
        simp [phrase, join, Share.link]
      rw [htext] at hlength ⊢
      rw [normalize_phrase hpack ho hq (List.forall_mem_singleton.mpr hg) hof hs hlength]
      have hoperand := isOperand_formula hg.count_isPlainDigits hg.parts_isPlainDigits hq
      rw [reading, hoperand.operands_cons]
      exact hvalue q hq
    | more hf ht => cases ht
  · obtain ⟨s, fs, q, hs, hfs, hq, rfl, rfl⟩ := ht.exists_phrase hminus
    obtain ⟨x, y, us, hoperands, hx, hy⟩ :=
      exists_operands (fractionsApart_of_mem hpack) ho hq hfs hcount
    rw [normalize_phrase hpack ho hq hfs hof hs hlength, hoperands]
    exact not_denotes_join hx hy l _

end Values

/-- A half of a third of twelve. -/
theorem isPortion_nested : IsPortion "of".toList 2 "1/2 of 1/3 of 12".toList 2 := by
  have hone : IsInteger "1".toList 1 := .natural ⟨by decide, by decide⟩
  have hhalf : IsFraction "1/2".toList (1 / 2) := by
    have h := IsFraction.written hone (n := "2".toList) ⟨by decide, by decide⟩ (by decide)
    rwa [show Nat.ofDigitChars 10 "2".toList 0 = 2 by decide, Int.cast_one, Nat.cast_ofNat] at h
  have hthird : IsFraction "1/3".toList (1 / 3) := by
    have h := IsFraction.written hone (n := "3".toList) ⟨by decide, by decide⟩ (by decide)
    rwa [show Nat.ofDigitChars 10 "3".toList 0 = 3 by decide, Int.cast_one, Nat.cast_ofNat] at h
  have hportion := IsPortion.more hhalf
    (IsPortion.one (o := "of".toList) (q := "12".toList) hthird ⟨by decide, by decide⟩)
  have hvalue : (1 / 2 * (1 / 3 * (Nat.ofDigitChars 10 "12".toList 0 : ℕ)) : ℚ) = 2 := by
    rw [show Nat.ofDigitChars 10 "12".toList 0 = 12 by decide]
    norm_num
  rwa [hvalue] at hportion

/-- `3 fourths of 100` has its value, and `1/2 of 1/3 of 12` has none. -/
theorem normalize_portion_fourths :
    english ∈ builtinPacks ∧ "of" ∈ english.words .ofWords ∧
      (IsPortion "of".toList 1 "3 fourths of 100".toList 75 ∧ "3 fourths of 100".length ≤ 1000 ∧
        ∃ e, (Lexicon.ofPack english).map (·.normalize "3 fourths of 100".toList) = .ok e ∧
          Denotes .sum e 75) ∧
      (IsPortion "of".toList 2 "1/2 of 1/3 of 12".toList 2 ∧ "1/2 of 1/3 of 12".length ≤ 1000 ∧
        '-' ∉ "1/2 of 1/3 of 12".toList.tail ∧
        ∃ e, (Lexicon.ofPack english).map (·.normalize "1/2 of 1/3 of 12".toList) = .ok e ∧
          ∀ l y, ¬ Denotes l e y) := by
  have hpack : english ∈ builtinPacks := List.mem_cons_self
  have ho : "of" ∈ english.words .ofWords := by decide
  have hthree : IsInteger "3".toList 3 := .natural ⟨by decide, by decide⟩
  have hfraction : IsFraction "3 fourths".toList (3 / 4) := by
    have h := IsFraction.said hthree (w := "fourths") (d := 4) (by decide)
    rwa [Int.cast_ofNat, Nat.cast_ofNat] at h
  have hportion : IsPortion "of".toList 1 "3 fourths of 100".toList 75 := by
    have h := IsPortion.one (o := "of".toList) (q := "100".toList) hfraction ⟨by decide, by decide⟩
    have hvalue : (3 / 4 * (Nat.ofDigitChars 10 "100".toList 0 : ℕ) : ℚ) = 75 := by
      rw [show Nat.ofDigitChars 10 "100".toList 0 = 100 by decide]
      norm_num
    rwa [hvalue] at h
  obtain ⟨e, heq, hvalue, -⟩ := normalize_portion hpack ho hportion (by decide)
  obtain ⟨e', heq', -, hnone⟩ := normalize_portion hpack ho isPortion_nested (by decide)
  have hminus : '-' ∉ "1/2 of 1/3 of 12".toList.tail := by decide
  exact ⟨hpack, ho, ⟨hportion, by decide, e, heq, hvalue rfl⟩, isPortion_nested, by decide, hminus,
    e', heq', hnone (by decide) hminus⟩

/-- In `1/2 of 1/3 of 12` the half is taken of the numerator behind it, and the twelve is left over
as an operand without a sign. -/
theorem normalize_nested :
    IsPortion "of".toList 2 "1/2 of 1/3 of 12".toList 2 ∧
      (Lexicon.ofPack english).map (·.normalize "1/2 of 1/3 of 12".toList) =
        .ok "((1/2) * 1)/3 12".toList ∧
      ∀ l x, ¬ Denotes l "((1/2) * 1)/3 12".toList x := by
  refine ⟨isPortion_nested, ?_, fun l x h => ?_⟩
  · have hpack : english ∈ builtinPacks := List.mem_cons_self
    have ho : "of" ∈ english.words .ofWords := by decide
    have hone : IsPlainDigits "1".toList := ⟨by decide, by decide⟩
    have hfs : ∀ f ∈ [Share.written "1".toList "2".toList, .written "1".toList "3".toList],
        f.IsListed := by
      simp only [List.forall_mem_cons]
      exact ⟨⟨hone, by decide, by decide⟩, ⟨hone, by decide, by decide⟩, by simp⟩
    obtain ⟨lexicon, hlexicon, hof⟩ := Lexicon.exists_of_mem hpack
    rw [hlexicon]
    exact congrArg Except.ok (normalize_phrase hpack ho (q := "12".toList) ⟨by decide, by decide⟩
      hfs hof (Or.inl rfl) (by decide))
  · exact h.nowhere_neighbours (b := none) (a := []) rfl rfl "((1/2) * 1)/3".toList ' '
      "12".toList (by decide) ⟨by decide, "12".toList, rfl, by decide⟩

end CalcSpeech
