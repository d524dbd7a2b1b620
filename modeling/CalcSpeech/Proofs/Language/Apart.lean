import CalcSpeech.Proofs.Language.Phrases

/-!
# Words that are told apart

What keeps the words of a percentage from being taken for something else in the built-in packs: the
words around it begin no number, no decimal point, no scale and no fraction, and of two lists that
are looked for one after the other the first does not begin with a word of the second.
-/

namespace CalcSpeech

open Unicode Vocabulary Text

/-- The characters of the phrases of a pack that are looked for in or around a percentage. -/
structure Spelling where
  numbers : List (List Char)
  percentOf : List (List Char)
  percentages : List (List Char)
  decimals : List (List Char)
  addVerbs : List (List Char)
  addLinks : List (List Char)
  subtractVerbs : List (List Char)
  subtractLinks : List (List Char)
  ofWords : List (List Char)
  additions : List (List Char)
  subtractions : List (List Char)
  scales : List (List Char)
  fractions : List (List Char)

namespace Spelling

variable (s : Spelling)

/-- The verbs and connectives of phrases with a percentage. -/
def joints : List (List Char) :=
  s.addVerbs ++ s.addLinks ++ s.subtractVerbs ++ s.subtractLinks ++ s.ofWords

/-- The words for sums and differences. -/
def signs : List (List Char) := s.additions ++ s.subtractions

/-- The words that stand around a percentage. -/
def carriers : List (List Char) := (s.joints ++ s.signs).flatMap words

/-- The words for a percentage. -/
def percentWords : List (List Char) := s.percentages.flatMap words

/-- Phrases that are not looked into for numbers, and more. -/
def guarded : List (List Char) := s.percentOf ++ s.percentages ++ s.scales

/-- Only equal phrases begin with the same word. -/
def AreDistinct (es : List (List Char)) : Prop :=
  ∀ e ∈ es, ∀ f ∈ es, firstWord e = firstWord f → e = f

instance (es : List (List Char)) : Decidable (AreDistinct es) :=
  inferInstanceAs (Decidable (∀ e ∈ es, ∀ f ∈ es, _))

/-- The words of a percentage are told apart from other words and from each other. -/
structure IsApart : Prop where
  spoken : ∀ e ∈ s.joints ++ s.signs ++ s.guarded ++ s.numbers ++ s.decimals, IsSpoken e
  single : ∀ e ∈ s.joints, words e = [e]
  carrier_number : ∀ t ∈ s.carriers, t ∉ s.numbers.map firstWord
  carrier_guarded : ∀ t ∈ s.carriers, t ∉ s.guarded.map firstWord
  percent_number : ∀ e ∈ s.percentages, firstWord e ∉ s.numbers.map firstWord
  percent_guarded : ∀ e ∈ s.percentages, words e = [e] ∨
    ∀ q ∈ s.guarded, firstWord q = firstWord e → e <+: q
  scale : ∀ t ∈ s.carriers ++ s.percentWords, t ∉ s.scales.map firstWord
  scale_number : ∀ e ∈ s.scales, (words e = [e] ∧ e ∉ s.numbers.map firstWord) ∨
    words e ≠ [e] ∧ ∀ q ∈ s.guarded, firstWord q = firstWord e → e <+: q
  decimal : ∀ t ∈ s.carriers ++ s.percentWords, t ∉ s.decimals.map firstWord
  fraction : ∀ t ∈ s.carriers ++ s.percentWords, t ∉ s.fractions
  distinct : AreDistinct s.addVerbs ∧ AreDistinct s.addLinks ∧ AreDistinct s.subtractVerbs ∧
    AreDistinct s.subtractLinks ∧ AreDistinct s.ofWords ∧ AreDistinct (['%'] :: s.percentages) ∧
    AreDistinct (['+'] :: s.additions) ∧ AreDistinct (['-'] :: s.subtractions)
  add_subtract : ∀ v ∈ s.addVerbs, v ∉ s.subtractVerbs ++ s.subtractLinks
  verb_of : ∀ v ∈ s.addVerbs ++ s.subtractVerbs, v ∉ s.percentWords ++ s.ofWords
  add_sign : ∀ e ∈ s.signs, (∀ v ∈ s.addVerbs, v ∉ words e) ∨
    ∀ l ∈ s.addLinks, l ∉ words e ++ s.percentWords
  subtract_sign : ∀ e ∈ s.signs, (∀ v ∈ s.subtractVerbs, v ∉ words e) ∨
    ∀ l ∈ s.subtractLinks, l ∉ words e ++ s.percentWords
  of_sign : ∀ o ∈ s.ofWords, o ∉ s.signs.flatMap words ++ s.percentWords
  addition_subtraction : ∀ e ∈ s.additions,
    firstWord e ∉ s.subtractions.flatMap words ++ s.percentWords

section IsApart

variable {s} (h : s.IsApart) {e : List Char}

include h

theorem IsApart.spoken_joint (he : e ∈ s.joints) : IsSpoken e := h.spoken e (by simp [he])

theorem IsApart.spoken_sign (he : e ∈ s.signs) : IsSpoken e := h.spoken e (by simp [he])

theorem IsApart.spoken_guarded (he : e ∈ s.guarded) : IsSpoken e := h.spoken e (by simp [he])

theorem IsApart.spoken_percentage (he : e ∈ s.percentages) : IsSpoken e :=
  h.spoken_guarded (by simp [guarded, he])

theorem IsApart.spoken_scale (he : e ∈ s.scales) : IsSpoken e :=
  h.spoken_guarded (by simp [guarded, he])

theorem IsApart.spoken_number (he : e ∈ s.numbers) : IsSpoken e := h.spoken e (by simp [he])

theorem IsApart.spoken_decimal (he : e ∈ s.decimals) : IsSpoken e := h.spoken e (by simp [he])

end IsApart

end Spelling

/-- The phrases of a pack in characters. -/
def LanguagePack.spelling (pack : LanguagePack) : Spelling where
  numbers := (pack.numbers.map (·.1)).map String.toList
  percentOf := (pack.words .percentOf).map String.toList
  percentages := (pack.words .percentage).map String.toList
  decimals := (pack.words .decimalWords).map String.toList
  addVerbs := (pack.phrases .add).verbs.map String.toList
  addLinks := (pack.phrases .add).connectives.map String.toList
  subtractVerbs := (pack.phrases .subtract).verbs.map String.toList
  subtractLinks := (pack.phrases .subtract).connectives.map String.toList
  ofWords := (pack.words .ofWords).map String.toList
  additions := (pack.words .addition).map String.toList
  subtractions := (pack.words .subtraction).map String.toList
  scales := (scaleWords.map (·.1)).map String.toList
  fractions := (fractionWords.map (·.1)).map String.toList

/-- The spelling of a pack, list by list. -/
structure LanguagePack.IsSpelled (pack : LanguagePack) (s : Spelling) : Prop where
  numbers : Spelled (pack.numbers.map (·.1)) s.numbers
  percentOf : Spelled (pack.words .percentOf) s.percentOf
  percentages : Spelled (pack.words .percentage) s.percentages
  decimals : Spelled (pack.words .decimalWords) s.decimals
  addVerbs : Spelled (pack.phrases .add).verbs s.addVerbs
  addLinks : Spelled (pack.phrases .add).connectives s.addLinks
  subtractVerbs : Spelled (pack.phrases .subtract).verbs s.subtractVerbs
  subtractLinks : Spelled (pack.phrases .subtract).connectives s.subtractLinks
  ofWords : Spelled (pack.words .ofWords) s.ofWords
  additions : Spelled (pack.words .addition) s.additions
  subtractions : Spelled (pack.words .subtraction) s.subtractions
  scales : Spelled (scaleWords.map (·.1)) s.scales
  fractions : Spelled (fractionWords.map (·.1)) s.fractions

theorem LanguagePack.isApart_of_isSpelled {pack : LanguagePack}
    {numbers percentOf percentages decimals addVerbs addLinks subtractVerbs subtractLinks ofWords
      additions subtractions scales fractions : List (List Char)}
    (hs : pack.IsSpelled ⟨numbers, percentOf, percentages, decimals, addVerbs, addLinks,
      subtractVerbs, subtractLinks, ofWords, additions, subtractions, scales, fractions⟩)
    (hapart : Spelling.IsApart ⟨numbers, percentOf, percentages, decimals, addVerbs, addLinks,
      subtractVerbs, subtractLinks, ofWords, additions, subtractions, scales, fractions⟩) :
    pack.spelling.IsApart := by
  have heq : pack.spelling = ⟨numbers, percentOf, percentages, decimals, addVerbs, addLinks,
      subtractVerbs, subtractLinks, ofWords, additions, subtractions, scales, fractions⟩ := by
    simp only [spelling, Spelling.mk.injEq]
    exact ⟨hs.numbers.eq_map.symm, hs.percentOf.eq_map.symm, hs.percentages.eq_map.symm,
      hs.decimals.eq_map.symm, hs.addVerbs.eq_map.symm, hs.addLinks.eq_map.symm,
      hs.subtractVerbs.eq_map.symm, hs.subtractLinks.eq_map.symm, hs.ofWords.eq_map.symm,
      hs.additions.eq_map.symm, hs.subtractions.eq_map.symm, hs.scales.eq_map.symm,
      hs.fractions.eq_map.symm⟩
  rw [heq]
  exact hapart

open Lookup in
theorem isApart_of_mem {pack : LanguagePack} (h : pack ∈ builtinPacks) :
    pack.spelling.IsApart := by
  apply of_mem_builtinPacks h
  all_goals
    apply LanguagePack.isApart_of_isSpelled
    · repeat' constructor
    · constructor <;> decide +kernel

end CalcSpeech
