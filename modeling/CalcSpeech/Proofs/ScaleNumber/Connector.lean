import CalcSpeech.Proofs.Expression.Leftover
import CalcSpeech.Proofs.Point.Scales
import CalcSpeech.Proofs.ScaleNumber.Kept
import CalcSpeech.Proofs.Written.Scaled

/-!
# Connectors behind a scale word

A connector joins the number words of one number. Behind a scale word it is a stray word: what
stands behind it is not added to the scaled number, and both numbers are left side by side
(`normalize_connected`).
-/

namespace CalcSpeech

open Unicode Pattern Vocabulary Text

namespace ScaleNumber

/-! ## Scaled numbers with something other than a number behind them -/

/-- A gap, a scale word, and a gap with a digit behind it stand here. -/
def SumBehind (text : List Char) : Prop :=
  ∃ g s i a, text = g ++ (s ++ (i ++ a)) ∧ (g ≠ [] ∧ ∀ c ∈ g, isBlank c = true) ∧
    Finds scaleNames (behind none g) s (i ++ a) ∧ (i ≠ [] ∧ ∀ c ∈ i, isBlank c = true) ∧
    a.head?.any Char.isDigit = true

/-- A numeral with marks stands here, with a scale word and a digit behind it. -/
def SumAt (_before : Option Char) (text : List Char) : Prop :=
  ∃ n t, text = n ++ t ∧ IsMarked n ∧ SumBehind t

theorem opensAt_sum (percent : Pattern) : (scaledSum percent).OpensAt SumAt := by
  intro b w a k hread
  obtain ⟨n, w1, _, _, rfl, -, hnumeral, hrow1⟩ := reads_inOrder_cons.mp hread
  obtain ⟨g, w2, _, _, rfl, -, hgap, hrow2⟩ := reads_inOrder_cons.mp hrow1
  obtain ⟨s, w3, _, _, rfl, -, hscale, hrow3⟩ := reads_inOrder_cons.mp hrow2
  obtain ⟨i, w4, _, _, rfl, -, hgap', hrow4⟩ := reads_inOrder_cons.mp hrow3
  obtain ⟨d, w5, _, _, rfl, -, haddend, -⟩ := reads_inOrder_cons.mp hrow4
  obtain ⟨hne, hblank, -⟩ := reads_gap.mp hgap
  obtain ⟨hne', hblank', -⟩ := reads_gap.mp hgap'
  have hdigit := opens_addend.group 3 _ _ _ _ haddend
  cases hnumeral with
  | group hmarked =>
    cases hscale with
    | group hscale =>
      obtain ⟨-, hfinds⟩ := reads_pattern.mp hscale
      rw [behind_of_ne_nil _ hne] at hfinds
      refine ⟨n, g ++ (s ++ (i ++ (d ++ (w5 ++ a)))), by simp, isMarked_of_reads hmarked, g, s, i,
        d ++ (w5 ++ a), rfl, ⟨hne, hblank⟩, ?_, ⟨hne', hblank'⟩, hdigit⟩
      rw [behind_of_ne_nil _ hne]
      rwa [List.append_assoc, List.append_assoc] at hfinds

theorem SumAt.head {b : Option Char} {text : List Char} (h : SumAt b text) :
    text.head?.any Char.isDigit = true := by
  obtain ⟨n, t, rfl, hn, -⟩ := h
  obtain ⟨d, ds, rfl, hd⟩ := hn.exists_cons
  exact hd

/-- Text without blanks in front of a gap with no sum behind it is no sum. -/
theorem nowhere_sum {b : Option Char} {u t : List Char} (hu : ∀ c ∈ u, isBlank c = false)
    (ht : t.head?.all isBlank = true) (hno : ¬ SumBehind t) : Nowhere SumAt b u t := by
  rintro v c w rfl ⟨n, t', htext, hn, hsum⟩
  obtain ⟨g, s, i, a, rfl, hg, hrest⟩ := hsum
  apply hno
  rw [eq_of_marked hn (fun d hd => hu d (List.mem_append_right v hd)) ht (all_isBlank_gap hg) htext]
  exact ⟨g, s, i, a, rfl, hg, hrest⟩

/-- Behind a scale word there is a sum only with a digit behind the gap. -/
theorem not_sumBehind {w : String} (hw : w ∈ scaleNames) {y : List Char}
    (hsolid : y.head?.any isBlank = false) (hdigit : y.head?.any Char.isDigit = false) :
    ¬ SumBehind ([' '] ++ (w.toList ++ ([' '] ++ y))) := by
  rintro ⟨g, s, i, a, htext, ⟨-, hg⟩, hfinds, ⟨-, hi⟩, ha⟩
  have hspace : ∀ c ∈ [' '], isBlank c = true := by decide
  have hblank : a.head?.any isBlank = false :=
    head_eq_false ha fun c hc => isBlank_of_isDecimalDigit (isDecimalDigit_of_isDigit hc)
  obtain ⟨rfl, hrow⟩ := eq_of_spans hspace hg (scale_solid hw)
    (begins_of_finds proper_scaleNames hfinds).1.solid htext
  -- no other scale word begins with the same word, so that it is this one that was read
  obtain rfl := eq_of_finds proper_scaleNames distinct_scaleNames hw
    (fits_self (proper_scaleNames w hw) behind_space head_space) hrow hfinds
  obtain ⟨-, rfl⟩ := eq_of_spans hspace hi hsolid hblank (List.append_cancel_left hrow)
  exact Bool.false_ne_true (hdigit.symm.trans ha)

/-- A scaled number in front of something else is rewritten alone. -/
theorem rewrite_apart {n : List Char} (hn : IsMarked n) {s : String × Nat} (hs : s ∈ scaleWords)
    {mark : DecimalMark} {d : Decimal} (hd : Decimal.ofNumeral? mark n = some d)
    (percent : Pattern) {y : List Char} (hsolid : y.head?.any isBlank = false)
    (hdigit : y.head?.any Char.isDigit = false)
    (hno : Nowhere (FoundAt scaleNames) none y []) :
    ScaleNumber.rewrite mark (scaledSum percent) (n ++ ([' '] ++ (s.1.toList ++ ([' '] ++ y)))) =
      (d.shift s.2).text ++ ' ' :: y := by
  have hw : s.1 ∈ scaleNames := List.mem_map_of_mem hs
  have hsums : (scaledSum percent).rewrite (rewriteSum mark)
      (n ++ ([' '] ++ (s.1.toList ++ ([' '] ++ y)))) =
        n ++ ([' '] ++ (s.1.toList ++ ([' '] ++ y))) := by
    have hplain : ∀ c ∈ [' '] ++ (s.1.toList ++ [' ']), c.isDigit = false := by
      simp only [List.forall_mem_append]
      exact ⟨by decide, no_digit_scale hw, by decide⟩
    have hquiet : (scaledSum percent).Quiet none (n ++ ([' '] ++ (s.1.toList ++ [' ']))) y := by
      refine (opensAt_sum percent).quiet (nowhere_append.mpr ⟨nowhere_sum hn.solid rfl ?_, ?_⟩)
      · rw [List.append_assoc, List.append_assoc]
        exact not_sumBehind hw hsolid hdigit
      · exact (nowhere_head hplain).mono fun _ _ h => h.head
    have hend : behind none (n ++ ([' '] ++ (s.1.toList ++ [' ']))) = some ' ' := by simp
    have hrest : (scaledSum percent).rewrite (rewriteSum mark) y = y :=
      (scaledSum_needsAt_scale percent).rewriteAfter _ hno
    have hfront := rewrite_append (rewriteSum mark) hquiet (by rw [hend]; exact behind_space)
    rw [hrest] at hfront
    simpa using hfront
  have hscaled : scaled.rewrite (rewriteScaled mark) y = y :=
    scaled_needsAt_scale.rewriteAfter _ hno
  unfold ScaleNumber.rewrite
  rw [hsums, scaled_front hn hs hd, hscaled]

end ScaleNumber

/-! ## Connectors -/

theorem LanguagePack.strayWord_of_spelled {pack : LanguagePack} {cs es : List (List Char)}
    (hcs : Spelled (pack.words .numberConnectors) cs)
    (hes : Spelled (pack.outsideStrings ++ pack.words .ofWords) es)
    (h : ∀ c ∈ cs, StrayWord es c) : ∀ c ∈ pack.words .numberConnectors,
      StrayWord ((pack.outsideStrings ++ pack.words .ofWords).map String.toList) c.toList := by
  rw [hcs.eq_map, hes.eq_map] at h
  exact fun c hc => h _ (List.mem_map_of_mem hc)

/-- A connector begins no phrase that another stage looks for. -/
theorem strayWord_connector {pack : LanguagePack} (h : pack ∈ builtinPacks) :
    ∀ c ∈ pack.words .numberConnectors,
      StrayWord ((pack.outsideStrings ++ pack.words .ofWords).map String.toList) c.toList := by
  apply of_mem_builtinPacks h
  all_goals
    apply LanguagePack.strayWord_of_spelled
    iterate 2
      · repeat' constructor
    · decide +kernel

/-! ## Transcripts -/

/-- Digits, or a word that begins no phrase. -/
inductive Bystander (pack : LanguagePack) : List Char → Prop
  | digits {t} : IsPlainDigits t → Bystander pack t
  | stray {t} : StrayWord ((pack.outsideStrings ++ pack.words .ofWords).map String.toList) t →
      Bystander pack t

section Bystanders

variable {pack : LanguagePack} {t : List Char} (h : Bystander pack t)

include h

theorem Bystander.leftover : IsLeftover pack t := by
  cases h with
  | digits hdigits => exact isLeftover_of_digits hdigits
  | stray hstray =>
    refine .stray (hstray.mono fun e he => ?_)
    rw [List.map_append]
    exact List.mem_append_left _ he

theorem Bystander.plainSpoken : ∀ c ∈ t, Transcript.isPlainSpoken c = true := by
  cases h with
  | digits hdigits =>
    exact fun c hc => Transcript.isPlainSpoken_iff.mpr (Or.inl (hdigits.isDigits.2 c hc))
  | stray hstray =>
    exact fun c hc => Transcript.isPlainSpoken_iff.mpr (Or.inr (Or.inl (hstray.small c hc)))

theorem Bystander.ne_ofWord {o : String} (ho : o ∈ pack.words .ofWords)
    (hspoken : IsSpoken o.toList) : firstWord o.toList ≠ t := by
  cases h with
  | digits hdigits =>
    exact (IsNumeral.whole hdigits.isDigits).ne_word hspoken.isWord
  | stray hstray =>
    exact hstray.lone _ (List.mem_map_of_mem (List.mem_append_right _ ho)) hspoken

end Bystanders

/-- The text that is rewritten where a scale word is followed by a row. -/
theorem join_scaled (n w : List Char) {ts : List (List Char)} (hne : ts ≠ []) :
    join [' '] (n :: w :: ts) = n ++ ([' '] ++ (w ++ ([' '] ++ join [' '] ts))) := by
  obtain ⟨t, ts, rfl⟩ := List.exists_cons_of_ne_nil hne
  rw [join_cons_cons, join_cons_cons]
  rfl

section Normalize

variable {pack : LanguagePack} (hpack : pack ∈ builtinPacks) {lexicon : Lexicon}
  (hof : lexicon.IsOf pack) {s : String × Nat} (hs : s ∈ scaleWords) {n : List Char}
  (hn : IsPlainDigits n)

section Rows

variable {ts : List (List Char)} (hne : ts ≠ []) (hts : ∀ t ∈ ts, Bystander pack t)

include hpack hs hn hts

/-- A scaled number in front of bystanders is read as it is. -/
theorem prepare_scaledRow : Transcript.prepare (join [' '] (n :: s.1.toList :: ts)) =
    join [' '] (n :: s.1.toList :: ts) := by
  have hspace : Transcript.isPlainSpoken ' ' = true := by decide
  have hscale : ∀ c ∈ s.1.toList, Transcript.isPlainSpoken c = true := by
    intro c hc
    rcases (spoken_scaleName (isApart_of_mem hpack) (List.mem_map_of_mem hs)).mem hc with
      rfl | hletter
    · exact hspace
    · exact Transcript.isPlainSpoken_iff.mpr (Or.inr (Or.inl hletter))
  have hdigits : Bystander pack n := .digits hn
  have hparts : ∀ t ∈ n :: s.1.toList :: ts, ∀ c ∈ t, Transcript.isPlainSpoken c = true := by
    simp only [List.forall_mem_cons]
    exact ⟨hdigits.plainSpoken, hscale, fun t ht => (hts t ht).plainSpoken⟩
  refine Transcript.prepare_of_plainSpoken fun c hc => Or.inl ?_
  rcases mem_join hc with rfl | ⟨t, ht, hct⟩
  · exact hspace
  · exact hparts t ht c hct

include hof hne

/-- In a scaled number in front of bystanders no number words are read. -/
theorem numberWords_scaledRow :
    NumberWord.rewrite lexicon.numberWords (join [' '] (n :: s.1.toList :: ts)) =
      join [' '] (n :: s.1.toList :: ts) := by
  have hapart := isApart_of_mem hpack
  have hnumbers : ∀ q ∈ NumberWord.numberNames pack, IsSpoken q.toList :=
    fun q hq => (NumberWord.mem_spelling_numbers hapart hq).2
  rw [join_scaled _ _ hne]
  refine numberWords_scaled (isOrdinary_of_mem hpack) hapart hof (fun c hc => Or.inl (hn.2 c hc))
    (List.mem_map_of_mem hs) (Or.inr ⟨_, rfl⟩) fun b => nowhere_cons.mpr ⟨not_begins_space, ?_⟩
  refine nowhere_begins_row hnumbers (fun t ht => (hts t ht).leftover.isToken)
    (fun q hq hmem => ?_) rfl
  exact (hts _ hmem).leftover.firstWord_ne (LanguagePack.mem_outsideStrings.mpr (Or.inl hq))
    (hnumbers q hq) rfl

/-- What is left of a transcript that is a scaled number and bystanders, when its scaled numbers
come to bystanders. -/
theorem normalize_scaledRow (hlength : (join [' '] (n :: s.1.toList :: ts)).length ≤ 1000)
    {us : List (List Char)} (hus : ∀ u ∈ us, Bystander pack u)
    (hscaled : ScaleNumber.rewrite pack.decimalMark
      (ScaleNumber.scaledSum (PercentPhrase.sign pack))
      (n ++ ([' '] ++ (s.1.toList ++ ([' '] ++ join [' '] ts)))) = join [' '] us) :
    lexicon.normalize (join [' '] (n :: s.1.toList :: ts)) =
      join [' '] (Expression.operands us) := by
  have hofs : ∀ o ∈ pack.words .ofWords, IsSpoken o.toList ∧ firstWord o.toList ∉ us := by
    intro o ho
    have hspoken := (isApart_of_mem hpack).spoken_joint (e := o.toList)
      (List.mem_append_right _ (List.mem_map_of_mem ho))
    exact ⟨hspoken, fun hmem => (hus _ hmem).ne_ofWord ho hspoken rfl⟩
  have hleft := fun u hu => (hus u hu).leftover
  have hfirst : Stage.rewriteAll [.numberWords, .scaleNumbers, .fractions] lexicon
      (join [' '] (n :: s.1.toList :: ts)) = join [' '] us := by
    simp only [Stage.rewriteAll, List.foldl_cons, List.foldl_nil, Stage.rewrite]
    rw [numberWords_scaledRow hpack hof hs hn hne hts, hof.scaledSum, hof.pack_eq,
      join_scaled _ _ hne, hscaled]
    exact fractions_leftover hleft hof hofs
  have hstages : Stage.all = [.numberWords, .scaleNumbers, .fractions] ++
      [.numeralMarks, .percentages, .operators, .cleanup] := rfl
  rw [lexicon.normalize_of_short hlength, prepare_scaledRow hpack hs hn hts, hstages,
    Stage.rewriteAll_append, hfirst, rewriteAll_leftover hleft (isOrdinary_of_mem hpack) hof]

end Rows

variable {a : List Char} (ha : IsPlainDigits a)

include hpack hof hs hn ha

/-- A number behind a scale word is added, unless the sum is too large. -/
theorem normalize_sum (hlength : (join [' '] [n, s.1.toList, a]).length ≤ 1000) :
    lexicon.normalize (join [' '] [n, s.1.toList, a]) =
      if Nat.ofDigitChars 10 n 0 * 10 ^ s.2 + Nat.ofDigitChars 10 a 0 < ScaleNumber.sumLimit then
        Nat.toDigits 10 (Nat.ofDigitChars 10 n 0 * 10 ^ s.2 + Nat.ofDigitChars 10 a 0)
      else join [' '] [Nat.toDigits 10 (Nat.ofDigitChars 10 n 0 * 10 ^ s.2), a] := by
  have hpercent := ScaleNumber.needsAt_sign pack
  have hdigits (k : Nat) := isPlainDigits_toDigits k
  have hrow (us : List (List Char)) (hus : ∀ u ∈ us, IsPlainDigits u)
      (hscaled : ScaleNumber.rewrite pack.decimalMark
        (ScaleNumber.scaledSum (PercentPhrase.sign pack))
        (n ++ ([' '] ++ (s.1.toList ++ ([' '] ++ a)))) = join [' '] us) :=
    normalize_scaledRow hpack hof hs hn (List.cons_ne_nil a [])
      (List.forall_mem_singleton.mpr (.digits ha)) hlength (fun u hu => .digits (hus u hu)) hscaled
  split
  · next hlimit =>
    rw [hrow [_] (List.forall_mem_singleton.mpr (hdigits _))
      (ScaleNumber.rewrite_wholeSum hn ha hs pack.decimalMark hpercent hlimit),
      operands_digits (hdigits _)]
    rfl
  · next hlimit =>
    rw [hrow [Nat.toDigits 10 (Nat.ofDigitChars 10 n 0 * 10 ^ s.2), a]
      (List.forall_mem_cons.mpr ⟨hdigits _, List.forall_mem_singleton.mpr ha⟩)
      ((ScaleNumber.rewrite_wholeTooLarge hn ha hs pack.decimalMark hpercent
        (Nat.not_lt.mp hlimit)).trans (join_cons_cons _ a []).symm),
      operands_digits (hdigits _), operands_digits ha]
    rfl

/-- A number behind a scale word and a connector is left beside the scaled number. -/
theorem normalize_apart {c : String} (hc : c ∈ pack.words .numberConnectors)
    (hlength : (join [' '] [n, s.1.toList, c.toList, a]).length ≤ 1000) :
    lexicon.normalize (join [' '] [n, s.1.toList, c.toList, a]) =
      join [' '] [Nat.toDigits 10 (Nat.ofDigitChars 10 n 0 * 10 ^ s.2), a] := by
  have hstray := strayWord_connector hpack c hc
  have hts : ∀ t ∈ [c.toList, a], Bystander pack t :=
    List.forall_mem_cons.mpr ⟨.stray hstray, List.forall_mem_singleton.mpr (.digits ha)⟩
  obtain ⟨d, r, hcons⟩ := List.exists_cons_of_ne_nil hstray.ne_nil
  have hsmall : isSmallLatin d = true := hstray.small d (by rw [hcons]; exact List.mem_cons_self)
  have hhead {f : Char → Bool} (hf : f d = false) :
      (join [' '] [c.toList, a]).head?.any f = false := by
    rw [join_cons_cons, hcons]
    exact hf
  have hdigit : d.isDigit = false := isDigit_of_isLetter (isLetter_of_isSmallLatin hsmall)
  have hno : Nowhere (FoundAt ScaleNumber.scaleNames) none (join [' '] [c.toList, a]) [] :=
    nowhere_found_leftover (fun t ht => (hts t ht).leftover) (isOrdinary_of_mem hpack)
      fun p hp => LanguagePack.mem_outsideStrings.mpr (Or.inr (Or.inl hp))
  have hscaled := ScaleNumber.rewrite_apart (.digits hn) hs
    (ScaleNumber.ofNumeral?_digits hn pack.decimalMark) (PercentPhrase.sign pack)
    (hhead (isBlank_of_isSmallLatin hsmall)) (hhead hdigit) hno
  rw [ScaleNumber.text_shift, ← join_cons_cons] at hscaled
  have hdigits := isPlainDigits_toDigits (Nat.ofDigitChars 10 n 0 * 10 ^ s.2)
  have hus : ∀ u ∈ [Nat.toDigits 10 (Nat.ofDigitChars 10 n 0 * 10 ^ s.2), c.toList, a],
      Bystander pack u := List.forall_mem_cons.mpr ⟨.digits hdigits, hts⟩
  rw [normalize_scaledRow hpack hof hs hn (List.cons_ne_nil _ _) hts hlength hus hscaled,
    operands_digits hdigits, Expression.operands_word hstray.isWord.2, operands_digits ha]
  rfl

end Normalize

/-- A connector behind a scale word does not join: the scaled number and the number behind the
connector are left side by side, just as without the connector where the sum is too large. -/
theorem normalize_connected {pack : LanguagePack} (hpack : pack ∈ builtinPacks) {c : String}
    (hc : c ∈ pack.words .numberConnectors) {s : String × Nat} (hs : s ∈ scaleWords)
    {n a : List Char} (hn : IsPlainDigits n) (ha : IsPlainDigits a)
    (hlength : (join [' '] [n, s.1.toList, c.toList, a]).length ≤ 1000) :
    ∃ lexicon, Lexicon.ofPack pack = .ok lexicon ∧
      lexicon.normalize (join [' '] [n, s.1.toList, c.toList, a]) =
        join [' '] [Nat.toDigits 10 (Nat.ofDigitChars 10 n 0 * 10 ^ s.2), a] ∧
      (lexicon.normalize (join [' '] [n, s.1.toList, c.toList, a]) =
          lexicon.normalize (join [' '] [n, s.1.toList, a]) ↔
        2 ^ 128 ≤ Nat.ofDigitChars 10 n 0 * 10 ^ s.2 + Nat.ofDigitChars 10 a 0) := by
  obtain ⟨lexicon, hlexicon, hof⟩ := Lexicon.exists_of_mem hpack
  have hshort : (join [' '] [n, s.1.toList, a]).length ≤ 1000 := by
    simp only [join_cons_cons, List.length_append, List.length_cons] at hlength ⊢
    omega
  have hapart := normalize_apart hpack hof hs hn ha hc hlength
  have hlimit : ScaleNumber.sumLimit = 2 ^ 128 := rfl
  refine ⟨lexicon, hlexicon, hapart, ?_⟩
  rw [hapart, normalize_sum hpack hof hs hn ha hshort, hlimit]
  split
  · next hsmall =>
    -- a sum has no space
    refine iff_of_false (fun hsame => ?_) (Nat.not_le.mpr hsmall)
    have hspace : ' ' ∈ Nat.toDigits 10 (Nat.ofDigitChars 10 n 0 * 10 ^ s.2 +
        Nat.ofDigitChars 10 a 0) := by
      rw [← hsame, join_cons_cons]
      simp
    exact absurd ((isPlainDigits_toDigits _).2 _ hspace) (by decide)
  · next hlarge => exact iff_of_true rfl (Nat.not_lt.mp hlarge)

/-- `2 mil millones y 05` is two numbers in Spanish. -/
theorem normalize_connected_spanish :
    spanish ∈ builtinPacks ∧ "y" ∈ spanish.words .numberConnectors ∧
      ("mil millones", 9) ∈ scaleWords ∧ IsPlainDigits ['2'] ∧ IsPlainDigits ['0', '5'] ∧
      "2 mil millones y 05".length ≤ 1000 ∧
      ∃ lexicon, Lexicon.ofPack spanish = .ok lexicon ∧
        lexicon.normalize "2 mil millones y 05".toList = "2000000000 05".toList ∧
        (lexicon.normalize "2 mil millones y 05".toList =
            lexicon.normalize "2 mil millones 05".toList ↔ 2 ^ 128 ≤ 2 * 10 ^ 9 + 5) := by
  have hpack : spanish ∈ builtinPacks := by simp [builtinPacks]
  have hconnector : "y" ∈ spanish.words .numberConnectors := List.mem_singleton.mpr rfl
  have hscale : ("mil millones", 9) ∈ scaleWords := by decide
  have htwo : IsPlainDigits ['2'] := ⟨by decide, by decide⟩
  have hfive : IsPlainDigits ['0', '5'] := ⟨by decide, by decide⟩
  have hjoined : "2 mil millones y 05".toList =
      join [' '] [['2'], "mil millones".toList, "y".toList, ['0', '5']] := by decide
  have hplain : "2 mil millones 05".toList =
      join [' '] [['2'], "mil millones".toList, ['0', '5']] := by decide
  have hrow : "2000000000 05".toList =
      join [' '] [Nat.toDigits 10 (Nat.ofDigitChars 10 ['2'] 0 * 10 ^ 9), ['0', '5']] := by decide
  have hconnected := normalize_connected hpack hconnector hscale htwo hfive (by decide)
  rw [hjoined, hplain, hrow]
  exact ⟨hpack, hconnector, hscale, htwo, hfive, by decide, hconnected⟩

/-- `1 million and 5` is not `1 million 5`. -/
theorem normalize_unjoined :
    english ∈ builtinPacks ∧ "and" ∈ english.words .numberConnectors ∧
      ("million", 6) ∈ scaleWords ∧ IsPlainDigits ['1'] ∧ IsPlainDigits ['5'] ∧
      "1 million and 5".length ≤ 1000 ∧
      ∃ lexicon, Lexicon.ofPack english = .ok lexicon ∧
        lexicon.normalize "1 million and 5".toList = "1000000 5".toList ∧
        lexicon.normalize "1 million 5".toList = "1000005".toList ∧
        lexicon.normalize "1 million and 5".toList ≠ lexicon.normalize "1 million 5".toList := by
  have hpack : english ∈ builtinPacks := by simp [builtinPacks]
  have hconnector : "and" ∈ english.words .numberConnectors := List.mem_singleton.mpr rfl
  have hscale : ("million", 6) ∈ scaleWords := by decide
  have hone : IsPlainDigits ['1'] := ⟨by decide, by decide⟩
  have hfive : IsPlainDigits ['5'] := ⟨by decide, by decide⟩
  obtain ⟨lexicon, hlexicon, hof⟩ := Lexicon.exists_of_mem hpack
  have hapart : lexicon.normalize "1 million and 5".toList = "1000000 5".toList := by
    have hjoined : "1 million and 5".toList =
        join [' '] [['1'], "million".toList, "and".toList, ['5']] := by decide
    rw [hjoined, normalize_apart hpack hof hscale hone hfive hconnector (by decide)]
    decide
  have hsum : lexicon.normalize "1 million 5".toList = "1000005".toList := by
    have hplain : "1 million 5".toList = join [' '] [['1'], "million".toList, ['5']] := by decide
    rw [hplain, normalize_sum hpack hof hscale hone hfive (by decide)]
    decide
  have hne : "1000000 5".toList ≠ "1000005".toList := by decide
  refine ⟨hpack, hconnector, hscale, hone, hfive, by decide, lexicon, hlexicon, hapart, hsum, ?_⟩
  rw [hapart, hsum]
  exact hne

end CalcSpeech
