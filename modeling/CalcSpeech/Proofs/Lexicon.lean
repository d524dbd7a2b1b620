import CalcSpeech.Lexicon
import CalcSpeech.Proofs.Language.Phrases

/-!
# The patterns of a lexicon

The parts of a lexicon by the pack it was made from. Every ordinary pack has a lexicon, and each
pattern in it that looks for words needs a character that belongs to speech alone.
-/

namespace CalcSpeech

open Pattern Vocabulary

/-- What a lexicon is made of, by the pack it was made from. -/
structure Lexicon.IsOf (lexicon : Lexicon) (pack : LanguagePack) : Prop where
  pack_eq : lexicon.pack = pack
  numberWords : NumberWord.Reader.ofPack? pack = .ok lexicon.numberWords
  scaledSum : lexicon.scaledSum = ScaleNumber.scaledSum (PercentPhrase.sign pack)
  numericFraction : lexicon.numericFraction =
    (pattern? (pack.words .ofWords)).map FractionPhrase.numeric
  spokenFraction : lexicon.spokenFraction =
    (pattern? (pack.words .ofWords)).map FractionPhrase.spoken
  decimalPoint : lexicon.decimalPoint = NumeralMark.spokenPoint? pack
  percent : lexicon.percent = PercentPhrase.Patterns.ofPack pack
  operators : lexicon.operators = OperatorWord.Patterns.ofPack pack

theorem Lexicon.isOf_of_ofPack {pack : LanguagePack} {lexicon : Lexicon}
    (h : Lexicon.ofPack pack = .ok lexicon) : lexicon.IsOf pack := by
  unfold Lexicon.ofPack at h
  cases hreader : NumberWord.Reader.ofPack? pack with
  | error fault =>
    rw [hreader] at h
    cases h
  | ok reader =>
    rw [hreader] at h
    cases h
    exact ⟨rfl, hreader, rfl, rfl, rfl, rfl, rfl, rfl⟩

namespace NumberWord

/-- What the runs of number words of a pack are found with. -/
def runOf (pack : LanguagePack) : Pattern :=
  alt (group 1 (Vocabulary.pattern (protectedPhrases pack)))
    (group 2 (runPattern (Vocabulary.pattern (pack.numbers.map (·.1)))
      (Vocabulary.pattern? (pack.words .numberConnectors))))

/-- What the reader of a pack is made of. -/
theorem reader_of_ofPack? {pack : LanguagePack} {reader : Reader}
    (h : Reader.ofPack? pack = .ok (some reader)) :
    reader.run = runOf pack ∧
      reader.token = tokenPattern (Vocabulary.pattern (pack.numbers.map (·.1)))
        (Vocabulary.pattern? (pack.words .numberConnectors)) ∧
      readValues pack.code pack.numbers = .ok reader.values := by
  unfold Reader.ofPack? at h
  cases hvalues : readValues pack.code pack.numbers with
  | error fault =>
    rw [hvalues] at h
    cases h
  | ok values =>
    rw [hvalues] at h
    cases hword : Vocabulary.pattern? (pack.numbers.map (·.1)) with
    | none =>
      simp only [hword, bind, Except.bind, pure, Except.pure] at h
      cases h
    | some word =>
      simp only [hword, bind, Except.bind, pure, Except.pure] at h
      cases h
      rw [eq_pattern_of_pattern? hword]
      exact ⟨rfl, rfl, rfl⟩

theorem run_eq_runOf {pack : LanguagePack} {reader : Reader}
    (h : Reader.ofPack? pack = .ok (some reader)) : reader.run = runOf pack :=
  (reader_of_ofPack? h).1

/-- A stage of number words goes by the runs of the pack, or does nothing. -/
theorem rewrite_eq_self {pack : LanguagePack} {reader : Option Reader}
    (h : Reader.ofPack? pack = .ok reader) {text : List Char}
    (hself : ∀ reader : Reader, (runOf pack).rewrite reader.rewriteRun text = text) :
    rewrite reader text = text := by
  cases reader with
  | none => rfl
  | some reader =>
    show reader.run.rewrite reader.rewriteRun text = text
    rw [run_eq_runOf h]
    exact hself reader

/-- The number words of a pack have values, if none of these is too large. -/
theorem exists_readValues (code : String) {numbers : List (String × String)}
    (h : ∀ d ∈ numbers.map (·.2), IsValue d.toList) :
    ∃ values, readValues code numbers = .ok values := by
  induction numbers with
  | nil => exact ⟨[], rfl⟩
  | cons number numbers ih =>
    obtain ⟨word, digits⟩ := number
    obtain ⟨values, hvalues⟩ := ih fun d hd => h d (List.mem_cons_of_mem _ hd)
    have hsmall : ¬ valueLimit < Nat.ofDigitChars 10 digits.toList 0 :=
      Nat.not_lt.mpr (h digits (by simp))
    refine ⟨values ++ [(Vocabulary.entry word, Nat.ofDigitChars 10 digits.toList 0)], ?_⟩
    rw [readValues, hvalues]
    exact if_neg hsmall

end NumberWord

/-- Every pack whose number words have no value too large has a lexicon. -/
theorem Lexicon.exists_ofPack_of_values {pack : LanguagePack}
    (h : ∀ d ∈ pack.numbers.map (·.2), IsValue d.toList) :
    ∃ lexicon, Lexicon.ofPack pack = .ok lexicon := by
  obtain ⟨values, hvalues⟩ := NumberWord.exists_readValues pack.code h
  have hreader : ∃ reader, NumberWord.Reader.ofPack? pack = .ok reader := by
    unfold NumberWord.Reader.ofPack?
    rw [hvalues]
    cases hword : Vocabulary.pattern? (pack.numbers.map (·.1)) with
    | none => exact ⟨none, by simp only [bind, Except.bind, pure, Except.pure]⟩
    | some word => exact ⟨_, by simp only [bind, Except.bind, pure, Except.pure]; rfl⟩
  obtain ⟨reader, hreader⟩ := hreader
  unfold Lexicon.ofPack
  rw [hreader]
  exact ⟨_, rfl⟩

/-- Every ordinary pack has a lexicon. -/
theorem Lexicon.exists_ofPack {pack : LanguagePack} (h : pack.IsOrdinary) :
    ∃ lexicon, Lexicon.ofPack pack = .ok lexicon :=
  exists_ofPack_of_values h.values

/-- Every built-in pack has a lexicon. -/
theorem Lexicon.exists_of_mem {pack : LanguagePack} (h : pack ∈ builtinPacks) :
    ∃ lexicon, Lexicon.ofPack pack = .ok lexicon ∧ lexicon.IsOf pack := by
  obtain ⟨lexicon, hlexicon⟩ := exists_ofPack (isOrdinary_of_mem h)
  exact ⟨lexicon, hlexicon, isOf_of_ofPack hlexicon⟩

/-! ## What the patterns need -/

section Needs

variable {pack : LanguagePack} (h : pack.IsOrdinary)

include h

theorem LanguagePack.IsOrdinary.protectedPhrases {p : String}
    (hp : p ∈ NumberWord.protectedPhrases pack) : IsPhrase p.toList := by
  obtain ⟨hmem, -⟩ := List.mem_filter.mp hp
  rcases List.mem_append.mp hmem with hpercent | hscale
  · rcases List.mem_append.mp hpercent with hof | hword
    · exact h.words hof
    · exact h.words hword
  · exact isPhrase_of_scaleWord p (List.mem_filter.mp hscale).1

theorem needs_runOf : (NumberWord.runOf pack).Needs isVerbal := by
  apply NeedsAt.alt
  · exact (needs_pattern fun p hp => h.protectedPhrases hp).group 1
  · exact (needs_pattern h.numbers).seq_left.group 2

theorem needs_words (list : WordList) (p : Pattern) (hp : pattern? (pack.words list) = some p) :
    p.Needs isVerbal := by
  rw [eq_pattern_of_pattern? hp]
  exact needs_pattern fun p hp => h.words hp

/-- The pattern for a percentage needs a character of speech or a percent sign. -/
theorem needs_percentSign :
    (PercentPhrase.sign pack).Needs fun c => isVerbal c || c == '%' := by
  refine needs_pattern_of (by decide) fun p hp => ?_
  rcases List.mem_cons.mp hp with rfl | hp
  · exact ⟨Or.inr ⟨'%', by decide, rfl⟩, '%', by decide, by decide⟩
  · obtain ⟨hproper, c, hc, hverbal⟩ := h.words hp
    exact ⟨hproper, c, hc, by rw [hverbal, Bool.true_or]⟩

omit h in
theorem needs_scalePattern : scalePattern.Needs isVerbal := needs_pattern isPhrase_of_scaleWord

omit h in
/-- A pattern that is made of a vocabulary, if there is one, needs what the vocabulary needs. -/
theorem needsAt_map {words : Option Pattern} {make : Pattern → Pattern}
    {Q : Option Char → List Char → Prop} (hwords : ∀ p, words = some p → p.NeedsAt Q)
    (hmake : ∀ p, p.NeedsAt Q → (make p).NeedsAt Q) (q : Pattern)
    (hq : words.map make = some q) : q.NeedsAt Q := by
  obtain ⟨p, hp, rfl⟩ := Option.map_eq_some_iff.mp hq
  exact hmake p (hwords p hp)

omit h in
theorem needsAt_verbPhrase {percent : Pattern} {template : PhraseTemplate}
    {Q : Option Char → List Char → Prop}
    (hverbs : (Vocabulary.pattern template.verbs).NeedsAt Q ∨
      (Vocabulary.pattern template.connectives).NeedsAt Q) (q : Pattern)
    (hq : PercentPhrase.verbPhrase? percent template = some q) : q.NeedsAt Q := by
  unfold PercentPhrase.verbPhrase? at hq
  simp only [bind, Option.bind_eq_some_iff, pure, Option.some.injEq] at hq
  obtain ⟨verb, hverb, connective, hconnective, rfl⟩ := hq
  rw [← eq_pattern_of_pattern? hverb, ← eq_pattern_of_pattern? hconnective] at hverbs
  rcases hverbs with hverbs | hverbs
  · exact needsAt_inOrder (by simp) hverbs
  · exact needsAt_inOrder (by simp) hverbs

omit h in
theorem needsAt_operatorPhrase {percent : Pattern} {template : PhraseTemplate}
    {Q : Option Char → List Char → Prop}
    (hwords : (Vocabulary.pattern template.verbs).NeedsAt Q ∨
      (Vocabulary.pattern template.connectives).NeedsAt Q) (q : Pattern)
    (hq : OperatorWord.phrasePattern? percent template = some q) : q.NeedsAt Q := by
  unfold OperatorWord.phrasePattern? at hq
  simp only [bind, Option.bind_eq_some_iff, pure, Option.some.injEq] at hq
  obtain ⟨verb, hverb, connective, hconnective, rfl⟩ := hq
  rw [← eq_pattern_of_pattern? hverb, ← eq_pattern_of_pattern? hconnective] at hwords
  rcases hwords with hwords | hwords
  · exact needsAt_inOrder (by simp) hwords
  · exact needsAt_inOrder (by simp) hwords

end Needs

end CalcSpeech
