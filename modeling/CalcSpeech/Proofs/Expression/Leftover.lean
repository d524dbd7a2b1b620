import CalcSpeech.Proofs.Expression.Filler
import CalcSpeech.Proofs.Fraction.Words
import CalcSpeech.Proofs.Idle
import Mathlib.Data.List.Infix

/-!
# Rows that no stage has a use for

A row of stray words, which begin no phrase, and of operands goes unread through the stages around
the fractions, and cleaning leaves its operands (`rewriteAll_leftover`).
-/

namespace CalcSpeech

open Unicode Pattern Vocabulary Text

/-- A word that none of the phrases begins with and that does not look like the word for a root. -/
structure StrayWord (phrases : List (List Char)) (t : List Char) : Prop where
  ne_nil : t ≠ []
  small : ∀ c ∈ t, isSmallLatin c = true
  lone : ∀ e ∈ phrases, IsSpoken e → firstWord e ≠ t
  rootless : ¬ ['s', 'q'] <:+: t

instance (phrases : List (List Char)) (t : List Char) : Decidable (StrayWord phrases t) :=
  decidable_of_iff (t ≠ [] ∧ (∀ c ∈ t, isSmallLatin c = true) ∧
      (∀ e ∈ phrases, IsSpoken e → firstWord e ≠ t) ∧ ¬ ['s', 'q'] <:+: t)
    ⟨fun h => ⟨h.1, h.2.1, h.2.2.1, h.2.2.2⟩, fun h => ⟨h.ne_nil, h.small, h.lone, h.rootless⟩⟩

theorem StrayWord.mono {es fs : List (List Char)} {t : List Char} (h : StrayWord es t)
    (hfs : ∀ e ∈ fs, e ∈ es) : StrayWord fs t :=
  ⟨h.ne_nil, h.small, fun e he => h.lone e (hfs e he), h.rootless⟩

theorem StrayWord.isWord {es : List (List Char)} {t : List Char} (h : StrayWord es t) : IsWord t :=
  ⟨h.ne_nil, fun c hc => isLetter_of_isSmallLatin (h.small c hc)⟩

/-- The words that fractions are said with are stray words. -/
theorem FractionSpelling.IsApart.strayWord {s : FractionSpelling} (h : s.IsApart) {t : List Char}
    (ht : t ∈ s.tokens) : StrayWord s.outside t where
  ne_nil := (h.small t ht).1
  small := (h.small t ht).2
  lone e he hspoken := by
    rcases h.outside e he with ⟨-, hother⟩ | ⟨c, hc, hsign⟩
    · exact fun hsame => hother (hsame ▸ ht)
    · have hall : ∀ c ∈ ['%', '×', '÷'], c ∈ signs := by decide
      exact absurd hsign (hspoken.ne_sign (hall c hc))
  rootless := h.root t ht

/-- A stray word of a pack, or an operand: digits and the signs of formulas. -/
inductive IsLeftover (pack : LanguagePack) : List Char → Prop
  | stray {t} : StrayWord (pack.outsideStrings.map String.toList) t → IsLeftover pack t
  | operand {t} : t ≠ [] → isTidy t = true →
      (∀ c ∈ t, isDecimalDigit c = true ∨ c ∈ "-()/* ".toList) → IsLeftover pack t

/-- A phrase is spoken, or it is a sign that no operand has. -/
theorem IsPhrase.cases {e : List Char} (h : IsPhrase e) :
    IsSpoken e ∨ ∃ c ∈ ['%', '×', '÷'], e = [c] := by
  obtain ⟨hspoken | ⟨c, hc, rfl⟩, d, hd, hverbal⟩ := h
  · exact Or.inl hspoken
  · obtain rfl := List.mem_singleton.mp hd
    have hall : ∀ c ∈ signs, isVerbal c = true → c ∈ ['%', '×', '÷'] := by decide
    exact Or.inr ⟨d, hall d hc hverbal, rfl⟩

theorem LanguagePack.IsOrdinary.outside_cases {pack : LanguagePack} (h : pack.IsOrdinary)
    {p : String} (hp : p ∈ pack.outsideStrings) :
    IsSpoken p.toList ∨ ∃ c ∈ ['%', '×', '÷'], p.toList = [c] := by
  rcases mem_outsideStrings.mp hp with hnumber | hscale | hdecimal | hpercent | ⟨kind, hverb⟩ |
    ⟨sign, -, hword⟩
  · exact (h.numbers p hnumber).cases
  · exact (isPhrase_of_scaleWord p hscale).cases
  · exact (h.words hdecimal).cases
  · rcases List.mem_cons.mp hpercent with rfl | hpercent
    · exact Or.inr ⟨'%', by decide, rfl⟩
    · exact (h.words hpercent).cases
  · exact (h.template (Or.inl hverb)).cases
  · exact (h.words hword).cases

section Leftover

variable {pack : LanguagePack} {t : List Char}

theorem IsLeftover.mem (h : IsLeftover pack t) {c : Char} (hc : c ∈ t) :
    isDecimalDigit c = true ∨ isSmallLatin c = true ∨ c ∈ "-()/* ".toList := by
  cases h with
  | stray hstray => exact Or.inr (Or.inl (hstray.small c hc))
  | operand _ _ hmem => exact (hmem c hc).imp_right Or.inr

/-- No letter is in an operand. -/
theorem no_letter_of_operand (hmem : ∀ c ∈ t, isDecimalDigit c = true ∨ c ∈ "-()/* ".toList) :
    ∀ c ∈ t, isLetter c = false := by
  have hother : ∀ c ∈ "-()/* ".toList, isLetter c = false := by decide
  exact fun c hc => (hmem c hc).elim isLetter_of_isDecimalDigit (hother c)

theorem isLeftover_of_digits (ht : IsPlainDigits t) : IsLeftover pack t := by
  have hsolid : ∀ c ∈ t, isBlank c = false :=
    fun c hc => isBlank_of_isDecimalDigit (ht.isDigits.2 c hc)
  have htidy := isTidyAfter_of_solid ht.1 hsolid [] false
  rw [List.append_nil] at htidy
  exact .operand ht.1 (by rw [isTidy, htidy, isTidyAfter, Bool.or_true])
    fun c hc => Or.inl (ht.isDigits.2 c hc)

/-- Digits are left in an expression. -/
theorem operands_digits (ht : IsPlainDigits t) (ts : List (List Char)) :
    Expression.operands (t :: ts) = t :: Expression.operands ts := by
  obtain ⟨c, hc⟩ := List.exists_mem_of_ne_nil t ht.1
  exact Expression.operands_cons hc (isLetter_of_isDecimalDigit (ht.isDigits.2 c hc))

theorem IsLeftover.isToken (h : IsLeftover pack t) : IsToken t := by
  cases h with
  | stray hstray => exact Or.inl hstray.isWord.2
  | operand _ _ hmem => exact Or.inr (no_letter_of_operand hmem)

/-- No phrase begins with what is left over. -/
theorem IsLeftover.firstWord_ne (h : IsLeftover pack t) {p : String}
    (hp : p ∈ pack.outsideStrings) (hspoken : IsSpoken p.toList) : firstWord p.toList ≠ t := by
  cases h with
  | stray hstray => exact hstray.lone _ (List.mem_map_of_mem hp) hspoken
  | operand _ _ hmem =>
    rintro rfl
    obtain ⟨c, hc⟩ := List.exists_mem_of_ne_nil _ hspoken.isWord.1
    exact Bool.false_ne_true ((no_letter_of_operand hmem c hc).symm.trans (hspoken.isWord.2 c hc))

theorem IsLeftover.part (h : IsLeftover pack t) : Expression.Part t := by
  cases h with
  | stray hstray =>
    exact .word hstray.isWord.2 fun hroot => hstray.rootless
      (List.IsInfix.trans ⟨[], ['r', 't'], rfl⟩ hroot)
  | operand hne htidy hmem =>
    have hother : ∀ c ∈ "-()/* ".toList,
        Expression.isKept c = true ∧ c ≠ Expression.rootSign := by decide +kernel
    refine .operand hne htidy (fun c hc => (hmem c hc).elim (fun hdigit => ?_) (hother c)) ?_
    · refine ⟨PercentPhrase.isKept_of_isDecimalDigit hdigit, ?_⟩
      rintro rfl
      exact absurd hdigit (by decide +kernel)
    · exact fun _ _ _ => nowhere_of_not_mem (fun _ _ => Expression.StopAt.head) fun hpoint =>
        absurd (hmem '.' hpoint) (by decide)

end Leftover

/-! ## Rows -/

section Rows

variable {pack : LanguagePack} {ts : List (List Char)} (hts : ∀ t ∈ ts, IsLeftover pack t)

include hts

theorem mem_join_leftover {c : Char} (hc : c ∈ join [' '] ts) :
    isDecimalDigit c = true ∨ isSmallLatin c = true ∨ c ∈ "-()/* ".toList := by
  rcases mem_join hc with rfl | ⟨t, ht, hct⟩
  · exact Or.inr (Or.inr (by decide))
  · exact (hts t ht).mem hct

theorem not_mem_join_leftover {d : Char} (hd : isDecimalDigit d = false ∧ isSmallLatin d = false ∧
    d ∉ "-()/* ".toList) : d ∉ join [' '] ts := by
  intro hmem
  rcases mem_join_leftover hts hmem with hdigit | hletter | hother
  · exact Bool.false_ne_true (hd.1.symm.trans hdigit)
  · exact Bool.false_ne_true (hd.2.1.symm.trans hletter)
  · exact hd.2.2 hother

/-- Phrases that begin with no word of a row are not found in it. -/
theorem nowhere_found_row {phrases : List String}
    (hphrases : ∀ p ∈ phrases, (IsSpoken p.toList ∧ firstWord p.toList ∉ ts) ∨
      ∃ c ∈ ['%', '×', '÷'], p.toList = [c]) {b : Option Char} :
    Nowhere (FoundAt phrases) b (join [' '] ts) [] := by
  have hsigns : ∀ c ∈ ['%', '×', '÷'], c ∈ signs ∧ isDecimalDigit c = false ∧
      isSmallLatin c = false ∧ c ∉ "-()/* ".toList := by decide +kernel
  refine nowhere_found (fun t ht => (hts t ht).isToken) fun p hp => ?_
  rcases hphrases p hp with ⟨hspoken, hno⟩ | ⟨c, hc, hsign⟩
  · exact Or.inl ⟨hspoken, _, hspoken.firstWord_mem, hno⟩
  · exact Or.inr ⟨c, (hsigns c hc).1, hsign, not_mem_join_leftover hts (hsigns c hc).2⟩

/-- Where no word for `of` begins with a word of a row there is no fraction in it. -/
theorem fractions_leftover {lexicon : Lexicon} (hof : lexicon.IsOf pack)
    (hofs : ∀ o ∈ pack.words .ofWords, IsSpoken o.toList ∧ firstWord o.toList ∉ ts) :
    FractionPhrase.rewrite lexicon.numericFraction lexicon.spokenFraction (join [' '] ts) =
      join [' '] ts :=
  fractions_idle hof (nowhere_found_row hts fun o ho => Or.inl (hofs o ho))

variable (hpack : pack.IsOrdinary)

include hpack

/-- None of the phrases that the stages around the fractions look for is found in a row. -/
theorem nowhere_found_leftover {phrases : List String}
    (hphrases : ∀ p ∈ phrases, p ∈ pack.outsideStrings) {b : Option Char} :
    Nowhere (FoundAt phrases) b (join [' '] ts) [] := by
  refine nowhere_found_row hts fun p hp => ?_
  refine (hpack.outside_cases (hphrases p hp)).imp_left fun hspoken => ⟨hspoken, fun hmem => ?_⟩
  exact (hts _ hmem).firstWord_ne (hphrases p hp) hspoken rfl

variable {lexicon : Lexicon} (hof : lexicon.IsOf pack)

include hof

/-- The stages in front of the fractions leave a row as it is. -/
theorem rewriteAll_unread : Stage.rewriteAll [.numberWords, .scaleNumbers] lexicon
    (join [' '] ts) = join [' '] ts := by
  have hnumbers : Nowhere (FoundAt (NumberWord.numberNames pack)) none (join [' '] ts) [] :=
    nowhere_found_leftover hts hpack fun p hp => LanguagePack.mem_outsideStrings.mpr (Or.inl hp)
  have hscales : Nowhere (FoundAt (scaleWords.map (·.1))) none (join [' '] ts) [] :=
    nowhere_found_leftover hts hpack fun p hp =>
      LanguagePack.mem_outsideStrings.mpr (Or.inr (Or.inl hp))
  simp only [Stage.rewriteAll, List.foldl_cons, List.foldl_nil, Stage.rewrite]
  rw [numberWords_idle hof hnumbers, hof.scaledSum, scaleNumbers_idle _ _ hscales]

/-- The stages behind the fractions leave the operands of a row. -/
theorem rewriteAll_leftover :
    Stage.rewriteAll [.numeralMarks, .percentages, .operators, .cleanup] lexicon (join [' '] ts) =
      join [' '] (Expression.operands ts) := by
  have hfound {phrases : List String} (h : ∀ p ∈ phrases, p ∈ pack.outsideStrings) :=
    nowhere_found_leftover hts hpack h (b := none)
  have hnot := fun {d : Char} => not_mem_join_leftover hts (d := d)
  have hplain : ∀ c ∈ join [' '] ts, NumeralMark.plainSpace c = c := by
    have hother : ∀ c ∈ "-()/* ".toList, NumeralMark.plainSpace c = c := by decide
    intro c hc
    rcases mem_join_leftover hts hc with hdigit | hletter | hmem
    · exact plainSpace_of_isPlainSpoken (Transcript.isPlainSpoken_iff.mpr (Or.inl hdigit))
    · exact plainSpace_of_isPlainSpoken (Transcript.isPlainSpoken_iff.mpr (Or.inr (Or.inl hletter)))
    · exact hother c hmem
  have hmarks := numeralMarks_of_not_found hof (hnot (by decide)) hplain
    (hfound fun p hp => LanguagePack.mem_outsideStrings.mpr (by simp [hp]))
    (nowhere_of_not_mem (fun _ _ => ExposedPointAt.head) (hnot (by decide)))
  have hpercents := percentages_idle
    (hfound fun p (hp : p ∈ "%" :: pack.words .percentage) =>
      LanguagePack.mem_outsideStrings.mpr (by tauto))
  have hoperators := operators_idle hof
    (fun kind => hfound fun p hp => LanguagePack.mem_outsideStrings.mpr (by tauto))
    (fun sign hsign => hfound fun p hp => LanguagePack.mem_outsideStrings.mpr (by tauto))
  simp only [Stage.rewriteAll, List.foldl_cons, List.foldl_nil, Stage.rewrite]
  have hplus : '+' ∉ join [' '] (Expression.operands ts) := by
    intro hmem
    rcases mem_join hmem with h | ⟨t, ht, hct⟩
    · exact absurd h (by decide)
    · have hmem := (hts t (List.mem_filter.mp ht).1).mem hct
      exact absurd hmem (by decide)
  rw [hof.pack_eq, hmarks, hof.percent, hpercents, hoperators, Expression.rewrite,
    Expression.canonicalize_join (fun t ht => (hts t ht).part)
      (nowhere_of_not_mem (fun _ _ => Expression.DoublePlusAt.head) hplus)]
  -- no word is left in the operands, so that no percentage is either
  have hclean : ∀ c ∈ join [' '] (Expression.operands ts),
      isDecimalDigit c = true ∨ c ∈ "-()/* ".toList := by
    intro c hc
    rcases mem_join hc with rfl | ⟨t, ht, hct⟩
    · exact Or.inr (by decide)
    · obtain ⟨hmem, hall⟩ := List.mem_filter.mp ht
      cases hts t hmem with
      | stray hstray =>
        rw [List.all_eq_true.mpr hstray.isWord.2] at hall
        exact absurd hall (by decide)
      | operand _ _ hoperand => exact hoperand c hct
  have hother : ∀ c ∈ "-()/* ".toList, isVerbal c = false ∧ c ≠ '%' := by decide
  refine PercentPhrase.rewritePlusMinus_of_silent hpack (fun c hc => ?_) fun hmem => ?_
  · exact (hclean c hc).elim isVerbal_of_isDecimalDigit fun h => (hother c h).1
  · exact (hclean _ hmem).elim (by decide +kernel) fun h => (hother _ h).2 rfl

end Rows

end CalcSpeech
