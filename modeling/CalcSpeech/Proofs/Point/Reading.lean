import CalcSpeech.Proofs.Point.Marks
import CalcSpeech.Proofs.Point.Scales
import CalcSpeech.Proofs.Silence
import CalcSpeech.Proofs.Transcript

/-!
# Spoken decimals

A decimal point that is spoken comes to the same as the mark of the language, if what follows the
decimals does not take them for itself (`normalize_point`). It does where it makes them a scaled
number, part of a fraction, or the whole part of another decimal: then the stages that read these
go first, while the point is still a word.
-/

namespace CalcSpeech

open Unicode Pattern Vocabulary

/-- The stages that come before decimal points are read. -/
def Stage.beforeMarks : List Stage := [.numberWords, .scaleNumbers, .fractions]

/-- With `r` behind them the digits `ds` are not taken by what follows: no scale word stands right
behind them, no fraction begins with them, and, where the decimal mark is a period, they have no
spoken decimals of their own. -/
structure StandFree (lexicon : Lexicon) (ds r : List Char) : Prop where
  unscaled : ∀ t, NumberWord.rewrite lexicon.numberWords (Transcript.prepare (ds ++ r)) = ds ++ t →
    ¬ ScaleNumber.ScaleBehind t
  whole : ∃ t, IsTail t ∧
    Stage.rewriteAll Stage.beforeMarks lexicon (Transcript.prepare (ds ++ r)) = ds ++ t
  lone : lexicon.pack.decimalMark = .period → ∀ p, lexicon.decimalPoint = some p →
    p.matchAt? none ((Stage.rewriteAll Stage.beforeMarks lexicon
      (Transcript.prepare (ds ++ r))).map NumeralMark.plainSpace) = none

section Reading

variable {pack : LanguagePack} (hpack : pack.IsOrdinary) {lexicon : Lexicon}
  (hof : lexicon.IsOf pack) {a ds t : List Char} (ha : IsDigits a) (hds : IsDigits ds)
  (ht : IsTail t)

include hpack hof ha hds ht

/-- The first stages read what follows a front as if it stood alone. -/
theorem IsFront.beforeMarks {u : List Char} (hu : IsFront pack a u)
    (hno : ∀ t', NumberWord.rewrite lexicon.numberWords (ds ++ t) = ds ++ t' →
      ¬ ScaleNumber.ScaleBehind t') :
    Stage.rewriteAll Stage.beforeMarks lexicon (u ++ (ds ++ t)) =
      u ++ Stage.rewriteAll Stage.beforeMarks lexicon (ds ++ t) := by
  obtain ⟨t', hwords, ht'⟩ := exists_numberWords_tail hpack hof.numberWords hds.2 ht
  have hscale := hno t' hwords
  have hscaled := hu.scaleNumbers ha.2 hds.2 ht' hscale lexicon.pack.decimalMark
    (PercentPhrase.sign pack)
  obtain ⟨t'', htail, ht''⟩ := exists_scaleNumbers_tail hds.2 ht' hscale lexicon.pack.decimalMark
    (PercentPhrase.sign pack)
  have hfractions := hu.fractions hpack hof hds ht'' ha.2
  simp only [Stage.rewriteAll, Stage.beforeMarks, List.foldl_cons, List.foldl_nil, Stage.rewrite,
    hof.scaledSum, hu.numberWords ha.2 hpack hof.numberWords, hwords, hscaled, htail, hfractions]

end Reading

/-- Where nothing that follows belongs to speech the digits stand free. -/
theorem standFree_of_silent {pack : LanguagePack} (hpack : pack.IsOrdinary) {lexicon : Lexicon}
    (hof : lexicon.IsOf pack) {ds r t : List Char} (ht : IsTail t)
    (hprepare : Transcript.prepare (ds ++ r) = ds ++ t) (hsilent : Silent (ds ++ t)) :
    StandFree lexicon ds r := by
  have hwords := numberWords_of_silent hpack hof hsilent
  have hfirst : Stage.rewriteAll Stage.beforeMarks lexicon (ds ++ t) = ds ++ t := by
    simp only [Stage.rewriteAll, Stage.beforeMarks, List.foldl_cons, List.foldl_nil, Stage.rewrite,
      hof.scaledSum, hwords, scaleNumbers_of_silent _ _ hsilent,
      fractions_of_silent hpack hof hsilent]
  refine ⟨?_, ⟨t, ht, by rw [hprepare, hfirst]⟩, ?_⟩
  · rw [hprepare, hwords]
    rintro t' hsame ⟨g, s, a, htail, -, hfinds⟩
    obtain rfl := List.append_cancel_left hsame
    have hrest : ∀ c ∈ s ++ a, isVerbal c = false := by
      intro c hc
      refine hsilent c ?_
      rw [htail]
      exact List.mem_append_right _ (List.mem_append_right _ hc)
    exact needs_scalePattern.not_reads (nowhere_head hrest) (reads_pattern.mpr ⟨rfl, hfinds⟩)
  · intro hperiod p hp
    rw [hof.decimalPoint] at hp
    rw [hof.pack_eq] at hperiod
    have hneeds : p.Needs isVerbal := NumeralMark.needsAt_spokenPoint
      (needs_pattern fun p hp => hpack.words hp)
      (fun hcomma => by rw [hperiod] at hcomma; cases hcomma) p hp
    rw [hprepare, hfirst]
    refine hneeds.matchAt?_eq_none (nowhere_head ?_)
    intro c hc
    obtain ⟨d, hd, rfl⟩ := List.mem_map.mp hc
    unfold NumeralMark.plainSpace
    split
    · decide
    · exact hsilent d hd

namespace Transcript

/-- Digits from `0` to `9`, small Latin letters, spaces and decimal marks in front of a space come
through the preparation as they are. -/
theorem prepare_append_numeral {u text : List Char} (hu : ∀ c ∈ u, c.isDigit = true ∨
    isSmallLatin c = true ∨ c ∈ [' ', '.', ',']) (htext : IsTail text) :
    prepare (u ++ text) = u ++ prepare text ∧ IsTail (prepare text) := by
  have hplain : ∀ c ∈ u, isPlainSpoken c = true ∨ c = ',' := by
    intro c hc
    have hmarks : ∀ c ∈ [' ', '.', ','], isPlainSpoken c = true ∨ c = ',' := by decide
    rcases hu c hc with hdigit | hletter | hmark
    · exact Or.inl (isPlainSpoken_iff.mpr (Or.inl (isDecimalDigit_of_isDigit hdigit)))
    · exact Or.inl (isPlainSpoken_iff.mpr (Or.inr (Or.inl hletter)))
    · exact hmarks c hmark
  have hlow : ∀ c ∈ u, c.toNat < 0x300 := by
    intro c hc
    have hmarks : ∀ c ∈ [' ', '.', ','], c.toNat < 0x300 := by decide
    rcases hu c hc with hdigit | hletter | hmark
    · simp only [Char.isDigit, Bool.and_eq_true, decide_eq_true_eq, UInt32.le_iff_toNat_le] at hdigit
      exact Nat.lt_of_le_of_lt hdigit.2 (by decide)
    · simp only [isSmallLatin, Bool.or_eq_true, Bool.and_eq_true, decide_eq_true_eq] at hletter
      omega
    · exact hmarks c hmark
  exact prepare_append (fun c hc => (steady_of_plainSpoken (hplain c hc)).1) hlow
    (fun c hc => (steady_of_plainSpoken (hplain c hc)).2.1)
    (fun hhyphen => (steady_of_plainSpoken (hplain '-' hhyphen)).2.2 rfl) htext

end Transcript

section Normalize

variable {pack : LanguagePack} (hpack : pack ∈ builtinPacks) {lexicon : Lexicon}
  (hof : lexicon.IsOf pack)

include hpack hof

/-- A numeral with a spoken decimal point is read as with the mark of the language. -/
theorem normalize_point {w : String} (hw : w ∈ pack.words .decimalWords) {a ds r : List Char}
    (ha : IsPlainDigits a) (hds : IsPlainDigits ds) (hr : IsTail r)
    (hfree : StandFree lexicon ds r)
    (hlength : (spokenFront a w.toList ++ (ds ++ r)).length ≤ 1000) :
    lexicon.normalize (spokenFront a w.toList ++ (ds ++ r)) =
      lexicon.normalize (writtenFront a pack.decimalMark.point ++ (ds ++ r)) := by
  have hordinary := isOrdinary_of_mem hpack
  have hpoints := hasPointWords_of_mem hpack
  have hmark : lexicon.pack.decimalMark = pack.decimalMark := by rw [hof.pack_eq]
  obtain ⟨hdecimals, htail⟩ := Transcript.prepare_append_numeral
    (fun c hc => Or.inl (hds.2 c hc)) hr
  obtain ⟨t, ht, hwhole⟩ := hfree.whole
  -- the first stages leave the front and the decimals behind it
  have hread {u : List Char} (hu : IsFront pack a u)
      (hshort : (u ++ (ds ++ r)).length ≤ 1000) : lexicon.normalize (u ++ (ds ++ r)) =
        Stage.rewriteAll [.numeralMarks, .percentages, .operators, .cleanup] lexicon
          (u ++ (ds ++ t)) := by
    have hrow : ∀ c ∈ u ++ ds, c.isDigit = true ∨ isSmallLatin c = true ∨ c ∈ [' ', '.', ','] :=
      List.forall_mem_append.mpr ⟨fun c hc => hu.mem ha hc, fun c hc => Or.inl (hds.2 c hc)⟩
    have hprepare := (Transcript.prepare_append_numeral hrow hr).1
    rw [List.append_assoc, List.append_assoc] at hprepare
    have hunscaled := hfree.unscaled
    rw [hdecimals] at hwhole hunscaled
    rw [lexicon.normalize_of_short hshort, hprepare, show Stage.all = Stage.beforeMarks ++
      [.numeralMarks, .percentages, .operators, .cleanup] from rfl, Stage.rewriteAll_append,
      hu.beforeMarks hordinary hof ha.isDigits hds.isDigits htail hunscaled, hwhole]
  have hspoken := hread (.spoken (hpoints.word w hw)) hlength
  have hwritten := hread .written (by
    simp only [spokenFront, writtenFront, List.length_append, List.length_cons] at hlength ⊢
    omega)
  have hpoint := NumeralMark.rewrite_point hordinary hpoints hw ha.isDigits hds.isDigits ht
    (by
      intro hperiod p hp
      rw [← hwhole]
      exact hfree.lone (hmark.trans hperiod) p (hof.decimalPoint.trans hp))
  rw [hspoken, hwritten]
  simp only [Stage.rewriteAll, List.foldl_cons, Stage.rewrite, hmark, hof.decimalPoint, hpoint]

/-- In front of a text without words it makes no difference how a decimal point is given. -/
theorem normalize_point_of_silent {w : String} (hw : w ∈ pack.words .decimalWords)
    {a ds r : List Char} (ha : IsPlainDigits a) (hds : IsPlainDigits ds) (hr : IsTail r)
    (hsilent : Silent (Transcript.prepare r))
    (hlength : (spokenFront a w.toList ++ (ds ++ r)).length ≤ 1000) :
    lexicon.normalize (spokenFront a w.toList ++ (ds ++ r)) =
      lexicon.normalize (writtenFront a pack.decimalMark.point ++ (ds ++ r)) := by
  have hordinary := isOrdinary_of_mem hpack
  obtain ⟨hprepare, htail⟩ := Transcript.prepare_append_numeral
    (fun c hc => Or.inl (hds.2 c hc)) hr
  have hdigits : ∀ c ∈ ds, isVerbal c = false := fun c hc =>
    isVerbal_of_isDecimalDigit (hds.isDigits.2 c hc)
  exact normalize_point hpack hof hw ha hds hr (standFree_of_silent hordinary hof htail hprepare
    (List.forall_mem_append.mpr ⟨hdigits, hsilent⟩)) hlength

end Normalize

end CalcSpeech
