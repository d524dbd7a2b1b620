import CalcSpeech.OperatorWord
import CalcSpeech.Proofs.Language.Apart

/-!
# Words for fractions

What keeps the words of a fraction of a quantity apart from the other phrases of a pack: no phrase
that a stage around the fractions looks for begins with one of them (`fractionsApart_of_mem`).
-/

namespace CalcSpeech

open Unicode Vocabulary Text

/-- The fraction words, the words for `of`, and the phrases that other stages look for, in
characters. -/
structure FractionSpelling where
  fractions : List (List Char)
  ofWords : List (List Char)
  outside : List (List Char)

namespace FractionSpelling

variable (s : FractionSpelling)

/-- The words that a fraction of a quantity is said with. -/
def tokens : List (List Char) := s.fractions ++ s.ofWords

/-- These words are told apart from other phrases and from the word for a root. -/
structure IsApart : Prop where
  small : ∀ t ∈ s.tokens, t ≠ [] ∧ ∀ c ∈ t, isSmallLatin c = true
  outside : ∀ e ∈ s.outside, (IsSpoken e ∧ firstWord e ∉ s.tokens) ∨
    ∃ c ∈ ['%', '×', '÷'], e = [c]
  root : ∀ t ∈ s.tokens, ¬ ['s', 'q'] <:+: t

end FractionSpelling

namespace LanguagePack

variable (pack : LanguagePack)

/-- The phrases that the stages around the fractions look for. -/
def outsideStrings : List String :=
  pack.numbers.map (·.1) ++ scaleWords.map (·.1) ++ pack.words .decimalWords ++
    ("%" :: pack.words .percentage) ++
    (PhraseKind.all.flatMap fun kind => (pack.phrases kind).verbs) ++
    OperatorWord.signs.flatMap fun sign => pack.words sign.1

/-- The words for fractions of a pack and what they are told apart from, in characters. -/
def fractionSpelling : FractionSpelling where
  fractions := (fractionWords.map (·.1)).map String.toList
  ofWords := (pack.words .ofWords).map String.toList
  outside := pack.outsideStrings.map String.toList

variable {pack}

theorem mem_outsideStrings {p : String} : p ∈ pack.outsideStrings ↔
    p ∈ pack.numbers.map (·.1) ∨ p ∈ scaleWords.map (·.1) ∨ p ∈ pack.words .decimalWords ∨
      p ∈ "%" :: pack.words .percentage ∨ (∃ kind, p ∈ (pack.phrases kind).verbs) ∨
      ∃ sign ∈ OperatorWord.signs, p ∈ pack.words sign.1 := by
  have hkinds (kind : PhraseKind) : kind ∈ PhraseKind.all := by cases kind <;> decide
  simp only [outsideStrings, List.mem_append, List.mem_flatMap, hkinds, true_and, or_assoc]

theorem fractionSpelling_isApart {fractions ofWords outside : List (List Char)}
    (hfractions : Spelled (fractionWords.map (·.1)) fractions)
    (hofWords : Spelled (pack.words .ofWords) ofWords)
    (houtside : Spelled pack.outsideStrings outside)
    (h : FractionSpelling.IsApart ⟨fractions, ofWords, outside⟩) :
    pack.fractionSpelling.IsApart := by
  rw [fractionSpelling, ← hfractions.eq_map, ← hofWords.eq_map, ← houtside.eq_map]
  exact h

end LanguagePack

open Lookup in
theorem fractionsApart_of_mem {pack : LanguagePack} (h : pack ∈ builtinPacks) :
    pack.fractionSpelling.IsApart := by
  apply of_mem_builtinPacks h
  all_goals
    apply LanguagePack.fractionSpelling_isApart
    iterate 3
      · repeat' constructor
    · constructor <;> decide +kernel

end CalcSpeech
