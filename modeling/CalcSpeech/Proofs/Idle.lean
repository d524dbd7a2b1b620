import CalcSpeech.Proofs.Fraction
import CalcSpeech.Proofs.NumberWord
import CalcSpeech.Proofs.Silence
import CalcSpeech.Proofs.Transcript

/-!
# Stages that find nothing

A stage leaves a text as it is in which the phrases that it looks for are not found, whatever other
words the text has (`rewriteAll_idle`).
-/

namespace CalcSpeech

open Unicode Pattern Vocabulary Text

section Idle

variable {pack : LanguagePack} {lexicon : Lexicon} {text : List Char}

theorem numberWords_idle (hof : lexicon.IsOf pack)
    (hno : Nowhere (FoundAt (NumberWord.numberNames pack)) none text []) :
    NumberWord.rewrite lexicon.numberWords text = text := by
  apply NumberWord.rewrite_eq_self hof.numberWords
  intro reader
  exact NumberWord.rewriteRun_of_not_found reader hno

theorem scaleNumbers_idle (mark : DecimalMark) (percent : Pattern)
    (hno : Nowhere (FoundAt (scaleWords.map (·.1))) none text []) :
    ScaleNumber.rewrite mark (ScaleNumber.scaledSum percent) text = text := by
  have hscale : (group 2 scalePattern).NeedsAt (FoundAt (scaleWords.map (·.1))) :=
    (needsAt_found _).group 2
  have hsum : (ScaleNumber.scaledSum percent).NeedsAt (FoundAt (scaleWords.map (·.1))) :=
    needsAt_inOrder (by simp) hscale
  have hscaled : ScaleNumber.scaled.NeedsAt (FoundAt (scaleWords.map (·.1))) :=
    needsAt_inOrder (by simp) hscale
  have hself := hscaled.rewriteAfter (ScaleNumber.rewriteScaled mark) hno
  unfold ScaleNumber.rewrite
  rw [rewrite_eq_rewriteAfter, rewrite_eq_rewriteAfter,
    hsum.rewriteAfter (ScaleNumber.rewriteSum mark) hno, hself]

/-- What is made of a list of words needs one of them. -/
theorem needsAt_found_map {phrases : List String} {make : Pattern → Pattern}
    (hmake : ∀ p Q, p.NeedsAt Q → (make p).NeedsAt Q) (q : Pattern)
    (hq : (pattern? phrases).map make = some q) : q.NeedsAt (FoundAt phrases) := by
  refine needsAt_map ?_ (fun p => hmake p _) q hq
  intro p hp
  rw [eq_pattern_of_pattern? hp]
  exact needsAt_found phrases

/-- Without a word for `of` there is no fraction of a quantity. -/
theorem fractions_idle (hof : lexicon.IsOf pack)
    (hno : Nowhere (FoundAt (pack.words .ofWords)) none text []) :
    FractionPhrase.rewrite lexicon.numericFraction lexicon.spokenFraction text = text := by
  have hnumeric : ∀ q, lexicon.numericFraction = some q →
      q.NeedsAt (FoundAt (pack.words .ofWords)) := by
    rw [hof.numericFraction]
    exact needsAt_found_map fun p Q hp => needsAt_inOrder (by simp) hp
  have hspoken : ∀ q, lexicon.spokenFraction = some q →
      q.NeedsAt (FoundAt (pack.words .ofWords)) := by
    rw [hof.spokenFraction]
    exact needsAt_found_map fun p Q hp => needsAt_inOrder (by simp) hp
  unfold FractionPhrase.rewrite
  rw [rewrite?_eq_self hnumeric _ hno, rewrite?_eq_self hspoken _ hno]

/-- Without a slash there is no fraction in digits. -/
theorem numericFraction_idle (hof : lexicon.IsOf pack) (hslash : '/' ∉ text) :
    rewrite? lexicon.numericFraction FractionPhrase.rewriteNumeric text = text := by
  have hneeds : ∀ q, lexicon.numericFraction = some q →
      q.NeedsAt fun _ rest => rest.head?.any (· == '/') = true := by
    intro q hq
    rw [hof.numericFraction] at hq
    obtain ⟨ofWord, -, rfl⟩ := Option.map_eq_some_iff.mp hq
    have hslash : (just '/').Needs (· == '/') := needs_char
    exact needsAt_inOrder (by simp) hslash
  exact rewrite?_eq_self hneeds _
    (nowhere_head fun c hc => beq_eq_false_iff_ne.mpr fun h => hslash (h ▸ hc))

/-- In a row of tokens without a slash and without fraction words there is no fraction of a quantity,
whatever its words for `of`. -/
theorem fractions_join (hof : lexicon.IsOf pack) {tokens : List (List Char)}
    (htokens : ∀ t ∈ tokens, IsToken t) (hslash : '/' ∉ join [' '] tokens)
    (hwords : ∀ t ∈ tokens, IsWord t → fractionDenominator? t = none) :
    FractionPhrase.rewrite lexicon.numericFraction lexicon.spokenFraction (join [' '] tokens) =
      join [' '] tokens := by
  unfold FractionPhrase.rewrite
  rw [numericFraction_idle hof hslash, hof.spokenFraction]
  cases hof : pattern? (pack.words .ofWords) with
  | none => rfl
  | some ofWord =>
    apply rewriteAfter_eq_self
    intro v w a k htext _ hread
    have hkept : ∀ b w a k, ofWord.Reads b w a k → k = [] := by
      rw [eq_pattern_of_pattern? hof]
      exact fun _ _ _ _ hr => (reads_pattern.mp hr).1
    obtain ⟨n, g, x, i, o, j, r, rfl, -, hg, hx, hi, hk, -⟩ :=
      FractionPhrase.reads_spoken hkept hread
    -- the word stands between two gaps, so it is one of the tokens
    have hmem : x ∈ tokens := by
      apply Classical.byContradiction
      intro hne
      have hnone := nowhere_join (b := none) (a := []) hx htokens hne rfl
      obtain ⟨c, y, rfl⟩ := List.exists_cons_of_ne_nil hx.1
      refine hnone (v ++ n ++ g) c (y ++ (i ++ (o ++ (j ++ r))) ++ a) (by rw [htext]; simp)
        ⟨?_, i ++ (o ++ (j ++ r)) ++ a, by simp, ?_⟩
      · rw [behind_append]
        exact any_behind_of_ne_nil _ hg.1 fun c hc => isWordCharacter_of_isBlank (hg.2 c hc)
      · obtain ⟨d, i, rfl⟩ := List.exists_cons_of_ne_nil hi.1
        exact isWordCharacter_of_isBlank (hi.2 d (by simp))
    show FractionPhrase.rewriteSpoken ⟨_, k⟩ = _
    rw [FractionPhrase.rewriteSpoken, Match.group, Match.group?, hk, Option.getD_some,
      hwords x hmem hx]

/-- Spoken text has no other spaces than the plain one. -/
theorem plainSpace_of_isPlainSpoken {c : Char} (hc : Transcript.isPlainSpoken c = true) :
    NumeralMark.plainSpace c = c := by
  have hne {d : Char} (hd : Transcript.isPlainSpoken d = false) : c ≠ d :=
    Transcript.ne_of_isPlainSpoken hc hd
  rw [NumeralMark.plainSpace, if_neg]
  simp only [not_or]
  exact ⟨hne (by decide +kernel), hne (by decide +kernel), hne (by decide +kernel),
    hne (by decide +kernel)⟩

/-- Without words for the decimal point, commas and blanks other than spaces, and with every period
between digits, the marks of numerals are in order. -/
theorem numeralMarks_of_not_found (hof : lexicon.IsOf pack) (hcomma : ',' ∉ text)
    (hplain : ∀ c ∈ text, NumeralMark.plainSpace c = c)
    (hno : Nowhere (FoundAt (pack.words .decimalWords)) none text [])
    (hexposed : Nowhere ExposedPointAt none text []) :
    NumeralMark.rewrite pack.decimalMark lexicon.decimalPoint text = text := by
  have hne : ∀ c ∈ text, c ≠ ',' := fun c hc h => hcomma (h ▸ hc)
  have hmark : Nowhere (fun _ rest => rest.head?.any (· == ',') = true) none text [] :=
    nowhere_head fun c hc => beq_eq_false_iff_ne.mpr (hne c hc)
  rw [NumeralMark.rewrite_of_no_comma hne hplain]
  · exact NumeralMark.spacedPoint_eq_self (hexposed.mono fun _ _ => ExposedPointAt.of_loose)
  · intro point hp
    rw [hof.decimalPoint] at hp
    have hneeds := NumeralMark.needsAt_spokenPoint
      ((needsAt_found (pack.words .decimalWords)).mono fun _ _ => Or.inl)
      (fun _ => needs_char.mono fun _ _ => Or.inr) point hp
    exact hneeds.rewriteAfter _ (hno.or hmark)

theorem numeralMarks_idle (hof : lexicon.IsOf pack)
    (hspoken : ∀ c ∈ text, Transcript.isPlainSpoken c = true)
    (hno : Nowhere (FoundAt (pack.words .decimalWords)) none text [])
    (hexposed : Nowhere ExposedPointAt none text []) :
    NumeralMark.rewrite pack.decimalMark lexicon.decimalPoint text = text :=
  numeralMarks_of_not_found hof
    (fun hmem => absurd (hspoken _ hmem) (by decide +kernel))
    (fun c hc => plainSpace_of_isPlainSpoken (hspoken c hc)) hno hexposed

/-- Without a sign or word for a percentage there is no phrase with one. -/
theorem percentages_idle
    (hno : Nowhere (FoundAt ("%" :: pack.words .percentage)) none text []) :
    PercentPhrase.rewrite (PercentPhrase.Patterns.ofPack pack) text = text := by
  have hpercent : (PercentPhrase.sign pack).NeedsAt (FoundAt ("%" :: pack.words .percentage)) :=
    needsAt_found _
  have hverb (kind : PhraseKind) (q : Pattern)
      (hq : PercentPhrase.verbPhrase? (PercentPhrase.sign pack) (pack.phrases kind) = some q) :
      q.NeedsAt (FoundAt ("%" :: pack.words .percentage)) := by
    unfold PercentPhrase.verbPhrase? at hq
    simp only [bind, Option.bind_eq_some_iff, pure, Option.some.injEq] at hq
    obtain ⟨verb, -, connective, -, rfl⟩ := hq
    exact needsAt_inOrder (by simp) hpercent
  have hquantity (q : Pattern) (hq : (PercentPhrase.Patterns.ofPack pack).ofQuantity = some q) :
      q.NeedsAt (FoundAt ("%" :: pack.words .percentage)) := by
    obtain ⟨ofWord, -, rfl⟩ := Option.map_eq_some_iff.mp hq
    exact needsAt_inOrder (by simp) hpercent
  have hsign (operation q : Pattern)
      (hq : some (PercentPhrase.signPhrase (PercentPhrase.sign pack) operation) = some q) :
      q.NeedsAt (FoundAt ("%" :: pack.words .percentage)) := by
    obtain rfl := Option.some.inj hq
    exact needsAt_inOrder (by simp) hpercent
  show PercentPhrase.rewriteOperands (some _) _ (PercentPhrase.rewriteOperands (some _) _
    (PercentPhrase.rewriteOperands _ _ (PercentPhrase.rewriteOperands
      (PercentPhrase.verbPhrase? _ (pack.phrases .subtract)) _
      (PercentPhrase.rewriteOperands (PercentPhrase.verbPhrase? _ (pack.phrases .add)) _ text)))) =
    text
  simp only [PercentPhrase.rewriteOperands]
  rw [rewrite?_eq_self (hverb .add) _ hno, rewrite?_eq_self (hverb .subtract) _ hno,
    rewrite?_eq_self hquantity _ hno, rewrite?_eq_self (hsign _) _ hno,
    rewrite?_eq_self (hsign _) _ hno]

/-- Where no word for a percentage is found and no percent sign stands, neither is found. -/
theorem nowhere_percent (h : pack.IsOrdinary)
    (hno : Nowhere (FoundAt (pack.words .percentage)) none text []) (hsign : '%' ∉ text) :
    Nowhere (FoundAt ("%" :: pack.words .percentage)) none text [] := by
  have hplain : Nowhere (fun _ rest => rest.head?.any (· == '%') = true) none text [] :=
    nowhere_head fun c hc => beq_eq_false_iff_ne.mpr fun hpercent => hsign (hpercent ▸ hc)
  refine (hno.or hplain).mono ?_
  rintro b r ⟨w, a, rfl, e, he, hfits⟩
  have hproper : ∀ p ∈ "%" :: pack.words .percentage, IsProper p.toList :=
    List.forall_mem_cons.mpr ⟨Or.inr ⟨'%', by decide, rfl⟩, fun p hp => (h.words hp).1⟩
  obtain ⟨p, hp, rfl⟩ := (mem_entries_of_proper hproper).mp he
  rcases List.mem_cons.mp hp with rfl | hp
  · right
    rw [(fits_sign (c := '%') (by decide)).mp hfits]
    rfl
  · exact Or.inl ⟨w, a, rfl, p.toList,
      (mem_entries_of_proper fun p hp => (h.words hp).1).mpr ⟨p, hp, rfl⟩, hfits⟩

/-- Where none of its words is found a list of words for an operation is passed over. -/
theorem replaceWords_idle {list : WordList}
    (hno : Nowhere (FoundAt (pack.words list)) none text []) (sign : String) :
    OperatorWord.replaceWords (OperatorWord.Patterns.ofPack pack) text (list, sign) = text := by
  unfold OperatorWord.replaceWords
  split
  · rfl
  · refine rewrite?_eq_self (fun q hq => ?_) _ hno
    rw [eq_pattern_of_pattern? hq]
    exact needsAt_found _

/-- Without the verbs of phrases and the words for operations there is nothing to put a sign for. -/
theorem operators_idle (hof : lexicon.IsOf pack)
    (hverbs : ∀ kind, Nowhere (FoundAt (pack.phrases kind).verbs) none text [])
    (hwords : ∀ sign ∈ OperatorWord.signs, Nowhere (FoundAt (pack.words sign.1)) none text []) :
    OperatorWord.rewrite lexicon.operators text = text := by
  rw [hof.operators]
  have hphrase (kind : PhraseKind) :
      rewrite? ((OperatorWord.Patterns.ofPack pack).phrase kind) (OperatorWord.rewritePhrase kind)
        text = text :=
    rewrite?_eq_self (fun q hq => needsAt_operatorPhrase (Or.inl (needsAt_found _)) q hq) _ (hverbs kind)
  have hphrases : PhraseKind.all.foldl (fun text kind =>
      rewrite? ((OperatorWord.Patterns.ofPack pack).phrase kind)
        (OperatorWord.rewritePhrase kind) text) text = text :=
    List.foldl_fixed' hphrase _
  unfold OperatorWord.rewrite
  rw [hphrases]
  refine List.foldlRecOn (motive := (· = text)) _ _ rfl ?_
  rintro _ rfl sign hsign
  exact replaceWords_idle (hwords sign hsign) sign.2

/-- The stages in front of the operators leave a text as it is in which they find nothing. -/
theorem rewriteAll_idle (h : pack.IsOrdinary) (hof : lexicon.IsOf pack)
    (hspoken : ∀ c ∈ text, Transcript.isPlainSpoken c = true)
    (hnumbers : Nowhere (FoundAt (NumberWord.numberNames pack)) none text [])
    (hscales : Nowhere (FoundAt (scaleWords.map (·.1))) none text [])
    (hfractions : FractionPhrase.rewrite lexicon.numericFraction lexicon.spokenFraction text = text)
    (hdecimals : Nowhere (FoundAt (pack.words .decimalWords)) none text [])
    (hexposed : Nowhere ExposedPointAt none text [])
    (hpercents : Nowhere (FoundAt (pack.words .percentage)) none text []) (hsign : '%' ∉ text) :
    Stage.rewriteAll [.numberWords, .scaleNumbers, .fractions, .numeralMarks, .percentages] lexicon
      text = text := by
  simp only [Stage.rewriteAll, List.foldl_cons, List.foldl_nil, Stage.rewrite]
  rw [numberWords_idle hof hnumbers, hof.scaledSum, scaleNumbers_idle _ _ hscales, hfractions,
    hof.pack_eq, numeralMarks_idle hof hspoken hdecimals hexposed, hof.percent,
    percentages_idle (nowhere_percent h hpercents hsign)]

end Idle

end CalcSpeech
