import CalcSpeech.Proofs.Operator.Words

/-!
# Verbs and connectives

What keeps the verbs and connectives of the phrases around two operands apart from the words that
are looked for before them, and from each other: each is one word, every number, scale, decimal
point and percentage has another word in it, no two kinds of phrase share a verb, and no connective
is a verb.
-/

namespace CalcSpeech

open Unicode Vocabulary Text

/-- The verbs and connectives of each kind of phrase, the phrases that are looked for before them,
and the fraction words, in characters. -/
structure PhraseSpelling where
  verbs : List (List (List Char))
  links : List (List (List Char))
  others : List (List Char)
  fractions : List (List Char)

namespace PhraseSpelling

variable (s : PhraseSpelling)

/-- The verbs and connectives of all kinds. -/
def tokens : List (List Char) := s.verbs.flatten ++ s.links.flatten

/-- Verbs and connectives are told apart from other words and from each other. -/
structure IsApart : Prop where
  single : ∀ e ∈ s.tokens, IsSpoken e ∧ words e = [e]
  other : ∀ e ∈ s.others, IsSpoken e ∧ ∃ t ∈ words e, t ∉ s.tokens
  fraction : ∀ e ∈ s.tokens, e ∉ s.fractions
  verb : s.verbs.Pairwise fun es fs => ∀ e ∈ es, ∀ f ∈ fs, e ≠ f
  link : ∀ l ∈ s.links.flatten, l ∉ s.verbs.flatten

end PhraseSpelling

namespace LanguagePack

variable (pack : LanguagePack)

/-- The numbers, scales, decimal points and percentages that a pack has words for. -/
def quantityStrings : List String :=
  pack.numbers.map (·.1) ++ scaleWords.map (·.1) ++ pack.words .decimalWords ++
    pack.words .percentage

/-- The verbs and connectives of a pack and what they are told apart from, in characters. -/
def phraseSpelling : PhraseSpelling where
  verbs := PhraseKind.all.map fun kind => (pack.phrases kind).verbs.map String.toList
  links := PhraseKind.all.map fun kind => (pack.phrases kind).connectives.map String.toList
  others := pack.quantityStrings.map String.toList
  fractions := (fractionWords.map (·.1)).map String.toList

variable {pack}

theorem mem_quantityStrings {p : String} : p ∈ pack.quantityStrings ↔
    p ∈ pack.numbers.map (·.1) ∨ p ∈ scaleWords.map (·.1) ∨ p ∈ pack.words .decimalWords ∨
      p ∈ pack.words .percentage := by
  simp only [quantityStrings, List.mem_append, or_assoc]

theorem phraseSpelling_isApart {verbs links : List (List (List Char))}
    {others fractions : List (List Char)}
    (hverbs : List.Forall₂ Spelled (PhraseKind.all.map fun kind => (pack.phrases kind).verbs) verbs)
    (hlinks : List.Forall₂ Spelled
      (PhraseKind.all.map fun kind => (pack.phrases kind).connectives) links)
    (hothers : Spelled pack.quantityStrings others)
    (hfractions : Spelled (fractionWords.map (·.1)) fractions)
    (h : PhraseSpelling.IsApart ⟨verbs, links, others, fractions⟩) :
    pack.phraseSpelling.IsApart := by
  have hspelling : pack.phraseSpelling = ⟨verbs, links, others, fractions⟩ := by
    rw [← map_eq_of_spelled hverbs, ← map_eq_of_spelled hlinks, hothers.eq_map, hfractions.eq_map]
    simp [phraseSpelling, Function.comp_def]
  rw [hspelling]
  exact h

end LanguagePack

open Lookup in
theorem phrasesApart_of_mem {pack : LanguagePack} (h : pack ∈ builtinPacks) :
    pack.phraseSpelling.IsApart := by
  apply of_mem_builtinPacks h
  all_goals
    apply LanguagePack.phraseSpelling_isApart
    iterate 4
      · repeat' constructor
    · constructor <;> decide +kernel

end CalcSpeech
