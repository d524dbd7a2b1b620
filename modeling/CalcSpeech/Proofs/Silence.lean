import CalcSpeech.Proofs.Lexicon
import CalcSpeech.Proofs.Numeral
import CalcSpeech.Stage

/-!
# Texts without words

A text in which nothing belongs to speech alone passes through the stages that read words as it
is: what is left to do are the marks in numerals, sums with a percentage, and the cleanup
(`rewriteAll_of_silent`).
-/

namespace CalcSpeech

open Unicode Pattern Vocabulary

theorem Stage.rewriteAll_append (first later : List Stage) (lexicon : Lexicon)
    (text : List Char) : rewriteAll (first ++ later) lexicon text =
      rewriteAll later lexicon (rewriteAll first lexicon text) :=
  List.foldl_append

/-- A transcript that is not too long goes through all stages. -/
theorem Lexicon.normalize_of_short (lexicon : Lexicon) {transcript : List Char}
    (h : transcript.length ≤ 1000) : lexicon.normalize transcript =
      Stage.rewriteAll Stage.all lexicon (Transcript.prepare transcript) := by
  have hshort : Transcript.isTooLong transcript = false := by
    rw [Transcript.isTooLong, decide_eq_false_iff_not]
    exact Nat.not_lt.mpr h
  rw [normalize, hshort, if_neg Bool.false_ne_true]

/-- A text without characters that belong to speech alone. -/
def Silent (text : List Char) : Prop := ∀ c ∈ text, isVerbal c = false

/-- A digit does not belong to speech alone. -/
theorem isVerbal_of_isDecimalDigit {c : Char} (h : isDecimalDigit c = true) :
    isVerbal c = false := by
  have hlatin : isSmallLatin c = false := by
    rw [Bool.eq_false_iff]
    intro hsmall
    rw [isDecimalDigit_of_isSmallLatin hsmall] at h
    exact Bool.false_ne_true h
  rw [isVerbal, hlatin, beq_eq_false_of_digit (by decide +kernel) c h,
    beq_eq_false_of_digit (by decide +kernel) c h]
  rfl

section Stages

variable {pack : LanguagePack} {lexicon : Lexicon} {text : List Char}

/-- A rewriting by words leaves a silent text as it is. -/
theorem Silent.rewrite? (htext : Silent text) {p : Option Pattern}
    (hp : ∀ q, p = some q → q.Needs isVerbal) (change : Match → List Char) :
    Pattern.rewrite? p change text = text :=
  rewrite?_eq_self hp change (nowhere_head htext)

theorem numberWords_of_silent (h : pack.IsOrdinary) (hof : lexicon.IsOf pack)
    (htext : Silent text) : NumberWord.rewrite lexicon.numberWords text = text := by
  apply NumberWord.rewrite_eq_self hof.numberWords
  intro reader
  exact rewriteAfter_of_needs (needs_runOf h) reader.rewriteRun none htext

theorem needs_scaled : ScaleNumber.scaled.Needs isVerbal :=
  needsAt_inOrder (by simp) (NeedsAt.group needs_scalePattern 2)

theorem scaleNumbers_of_silent (mark : DecimalMark) (percent : Pattern) (htext : Silent text) :
    ScaleNumber.rewrite mark (ScaleNumber.scaledSum percent) text = text := by
  have hscale : (group 2 scalePattern).Needs isVerbal := needs_scalePattern.group 2
  have hsum : (ScaleNumber.scaledSum percent).Needs isVerbal := needsAt_inOrder (by simp) hscale
  have hrest := rewriteAfter_of_needs needs_scaled (ScaleNumber.rewriteScaled mark) none htext
  unfold ScaleNumber.rewrite
  rw [rewrite_eq_rewriteAfter, rewrite_eq_rewriteAfter,
    rewriteAfter_of_needs hsum (ScaleNumber.rewriteSum mark) none htext, hrest]

theorem fractions_of_silent (h : pack.IsOrdinary) (hof : lexicon.IsOf pack)
    (htext : Silent text) :
    FractionPhrase.rewrite lexicon.numericFraction lexicon.spokenFraction text = text := by
  unfold FractionPhrase.rewrite
  rw [hof.numericFraction, hof.spokenFraction]
  have hnumeric : ∀ q, (pattern? (pack.words .ofWords)).map FractionPhrase.numeric = some q →
      q.Needs isVerbal :=
    needsAt_map (needs_words h .ofWords) fun p hp => needsAt_inOrder (by simp) hp
  have hspoken : ∀ q, (pattern? (pack.words .ofWords)).map FractionPhrase.spoken = some q →
      q.Needs isVerbal :=
    needsAt_map (needs_words h .ofWords) fun p hp => needsAt_inOrder (by simp) hp
  rw [htext.rewrite? hnumeric, htext.rewrite? hspoken]

/-- Of the marks in numerals only a period with blanks around it is left to read. -/
theorem numeralMarks_of_silent (h : pack.IsOrdinary) (hof : lexicon.IsOf pack)
    (htext : Silent text) (hcomma : ∀ c ∈ text, c ≠ ',')
    (hplain : ∀ c ∈ text, NumeralMark.plainSpace c = c) :
    NumeralMark.rewrite pack.decimalMark lexicon.decimalPoint text =
      NumeralMark.spacedPoint.rewrite NumeralMark.pointed text := by
  have hpoint : ∀ q, lexicon.decimalPoint = some q → q.Needs fun c => isVerbal c || c == ',' := by
    rw [hof.decimalPoint]
    apply NumeralMark.needsAt_spokenPoint
    · exact needs_mono (needs_pattern fun p hp => h.words hp)
        fun c hc => by rw [hc, Bool.true_or]
    · intro _
      exact needs_mono needs_char fun c hc => by rw [hc, Bool.or_true]
  apply NumeralMark.rewrite_of_no_comma hcomma hplain
  intro point hp
  refine rewriteAfter_of_needs (hpoint point hp) _ none ?_
  intro c hc
  rw [htext c hc, beq_eq_false_iff_ne.mpr (hcomma c hc)]
  rfl

/-- Without words there is no phrase with a verb. -/
theorem verbPhrase_of_silent (h : pack.IsOrdinary) (htext : Silent text) (kind : PhraseKind)
    (formula : List Char → List Char → List Char) :
    PercentPhrase.rewriteOperands
      (PercentPhrase.verbPhrase? (PercentPhrase.sign pack) (pack.phrases kind)) formula text =
      text := by
  have hverb : ∀ q, PercentPhrase.verbPhrase? (PercentPhrase.sign pack) (pack.phrases kind) =
      some q → q.Needs isVerbal :=
    needsAt_verbPhrase (Or.inl (needs_pattern fun p hp => h.template (Or.inl hp)))
  exact htext.rewrite? hverb _

/-- Without words there is no percentage of a quantity. -/
theorem quantityPhrase_of_silent (h : pack.IsOrdinary) (htext : Silent text)
    (formula : List Char → List Char → List Char) :
    PercentPhrase.rewriteOperands (PercentPhrase.Patterns.ofPack pack).ofQuantity formula text =
      text := by
  have hquantity : ∀ q, (PercentPhrase.Patterns.ofPack pack).ofQuantity = some q →
      q.Needs isVerbal :=
    needsAt_map (needs_words h .ofWords) fun p hp => needsAt_inOrder (by simp) hp
  exact htext.rewrite? hquantity _

/-- Of the phrases with a percentage only those with a sign are left to read. -/
theorem percentages_of_silent (h : pack.IsOrdinary) (htext : Silent text) :
    PercentPhrase.rewrite (PercentPhrase.Patterns.ofPack pack) text =
      PercentPhrase.rewritePlusMinus (PercentPhrase.Patterns.ofPack pack) text := by
  have hadded := verbPhrase_of_silent h htext .add fun rate base =>
    PercentPhrase.changedBy '+' base rate
  have hsubtracted := verbPhrase_of_silent h htext .subtract fun rate base =>
    PercentPhrase.changedBy '-' base rate
  have hquantity := quantityPhrase_of_silent h htext fun rate base =>
    PercentPhrase.shareOf base rate
  show PercentPhrase.rewritePlusMinus _ (PercentPhrase.rewriteOperands _ _
    (PercentPhrase.rewriteOperands (PercentPhrase.verbPhrase? _ (pack.phrases .subtract)) _
      (PercentPhrase.rewriteOperands (PercentPhrase.verbPhrase? _ (pack.phrases .add)) _ text))) = _
  rw [hadded, hsubtracted, hquantity]

theorem replaceWords_of_silent (h : pack.IsOrdinary) (htext : Silent text)
    (sign : WordList × String) :
    OperatorWord.replaceWords (OperatorWord.Patterns.ofPack pack) text sign = text := by
  unfold OperatorWord.replaceWords
  split
  · rfl
  · exact htext.rewrite? (needs_words h sign.1) _

/-- Without words there is no phrase around two operands. -/
theorem operatorPhrase_of_silent (h : pack.IsOrdinary) (htext : Silent text) (kind : PhraseKind) :
    rewrite? ((OperatorWord.Patterns.ofPack pack).phrase kind) (OperatorWord.rewritePhrase kind)
      text = text := by
  have hphrase (q : Pattern) (hq : (OperatorWord.Patterns.ofPack pack).phrase kind = some q) :
      q.Needs isVerbal :=
    needsAt_operatorPhrase (Or.inl (needs_pattern fun p hp => h.template (Or.inl hp))) q hq
  exact htext.rewrite? hphrase _

theorem operators_of_silent (h : pack.IsOrdinary) (hof : lexicon.IsOf pack)
    (htext : Silent text) : OperatorWord.rewrite lexicon.operators text = text := by
  rw [hof.operators]
  have hphrases : PhraseKind.all.foldl (fun text kind =>
      rewrite? ((OperatorWord.Patterns.ofPack pack).phrase kind)
        (OperatorWord.rewritePhrase kind) text) text = text :=
    List.foldl_fixed' (operatorPhrase_of_silent h htext) _
  unfold OperatorWord.rewrite
  rw [hphrases]
  exact List.foldl_fixed' (replaceWords_of_silent h htext) _

namespace PercentPhrase

variable {P : Char → Prop} (hformula : ∀ c ∈ "().*/+- 10".toList, P c)

include hformula

/-- What holds of the characters of formulas and of two operands holds of a formula with these. -/
theorem forall_mem_changedBy {sign : Char} {base rate : List Char} (hsign : P sign)
    (hbase : ∀ c ∈ base, P c) (hrate : ∀ c ∈ rate, P c) : ∀ c ∈ changedBy sign base rate, P c := by
  intro c hc
  have hpart {part : List Char} (hpart : part ⊆ "().*/+- 10".toList) (hc : c ∈ part) : P c :=
    hformula c (hpart hc)
  simp only [changedBy, List.mem_cons, List.mem_append] at hc
  rcases hc with (((rfl | hc) | hc) | rfl | rfl | hc) | hc
  · exact hformula '(' (by decide)
  · exact hbase c hc
  · exact hpart (by decide) hc
  · exact hsign
  · exact hformula ' ' (by decide)
  · exact hrate c hc
  · exact hpart (by decide) hc

/-- What holds of the characters of formulas and of a text holds of the text with its sums and
differences with a percentage written as formulas. -/
theorem forall_mem_rewritePlusMinus {p : Patterns} (htext : ∀ c ∈ text, P c) :
    ∀ c ∈ rewritePlusMinus p text, P c := by
  have hoperand {u : List Char} (hu : ∀ c ∈ u, P c) : ∀ c ∈ plainOperand u, P c := by
    intro c hc
    obtain ⟨d, hd, rfl⟩ := List.mem_map.mp hc
    split
    · exact hformula '.' (by decide)
    · exact hu d (List.mem_filter.mp hd).1
  have hrewrite {q : Option Pattern} {sign : Char} (hsign : P sign) {u : List Char}
      (hu : ∀ c ∈ u, P c) : ∀ c ∈ rewriteOperands q (changedBy sign) u, P c := by
    cases q with
    | none => exact hu
    | some q =>
      apply forall_mem_rewriteAfter _ hu
      intro b m a hread hm
      exact forall_mem_changedBy hformula hsign
        (hoperand fun c hc => hm c (mem_of_mem_group hread hc))
        (hoperand fun c hc => hm c (mem_of_mem_group hread hc))
  exact hrewrite (hformula '-' (by decide)) (hrewrite (hformula '+' (by decide)) htext)

end PercentPhrase

/-- What the stages make of a silent text. -/
theorem rewriteAll_of_silent (h : pack.IsOrdinary) (hof : lexicon.IsOf pack)
    (htext : Silent text) (hcomma : ∀ c ∈ text, c ≠ ',')
    (hplain : ∀ c ∈ text, NumeralMark.plainSpace c = c) :
    Stage.rewriteAll Stage.all lexicon text =
      Expression.rewrite lexicon.percent (PercentPhrase.rewritePlusMinus lexicon.percent
        (NumeralMark.spacedPoint.rewrite NumeralMark.pointed text)) := by
  have hpointed : Silent (NumeralMark.spacedPoint.rewrite NumeralMark.pointed text) :=
    NumeralMark.forall_mem_pointed (by decide) htext
  have hchanged : Silent (PercentPhrase.rewritePlusMinus (PercentPhrase.Patterns.ofPack pack)
      (NumeralMark.spacedPoint.rewrite NumeralMark.pointed text)) :=
    PercentPhrase.forall_mem_rewritePlusMinus (by decide) hpointed
  simp only [Stage.rewriteAll, Stage.all, List.foldl_cons, List.foldl_nil, Stage.rewrite]
  rw [numberWords_of_silent h hof htext, hof.scaledSum, scaleNumbers_of_silent _ _ htext,
    fractions_of_silent h hof htext, hof.pack_eq, numeralMarks_of_silent h hof htext hcomma hplain,
    hof.percent, percentages_of_silent h hpointed, operators_of_silent h hof hchanged]

end Stages

end CalcSpeech
