import CalcSpeech.Proofs.Operator.Words

/-!
# Words for a change by a percentage

What keeps the words of `100 plus 5 percent` apart from what else is looked for in its text
(`changesApart_of_mem`): no difference begins with a word of a sum or of a percentage; of each
phrase around two operands the verb or the connective is missing; and the words whose signs are put
before that of the percentage have a word that no percentage has.
-/

namespace CalcSpeech

open Unicode Vocabulary Text

/-- The words for sums, differences and percentages, the verbs and connectives of each kind of
phrase, and the words that give way to signs between those of the difference and of the percentage
and behind them, in characters. -/
structure ChangeSpelling where
  additions : List (List Char)
  subtractions : List (List Char)
  percentages : List (List Char)
  verbs : List (List (List Char))
  links : List (List (List Char))
  between : List (List Char)
  later : List (List Char)

namespace ChangeSpelling

variable (s : ChangeSpelling)

/-- A phrase that does not begin with one of these words. -/
def BeginsApart (ws : List (List Char)) (e : List Char) : Prop := IsSpoken e ∧ firstWord e ∉ ws

instance (ws : List (List Char)) (e : List Char) : Decidable (BeginsApart ws e) :=
  inferInstanceAs (Decidable (_ ∧ _))

/-- The words for percentages, one by one. -/
def percentWords : List (List Char) := s.percentages.flatMap words

/-- Sums, differences and percentages are told apart from each other and from other phrases. -/
structure IsApart : Prop where
  subtraction : ∀ e ∈ s.subtractions,
    BeginsApart (s.additions.flatMap words ++ s.percentWords) e
  phrase : ∀ t ∈ s.verbs.zip s.links, ∀ e ∈ s.additions ++ s.subtractions,
    (∀ v ∈ t.1, BeginsApart (words e ++ s.percentWords) v) ∨
      ∀ l ∈ t.2, BeginsApart (words e ++ s.percentWords) l
  between : ∀ e ∈ s.between, (IsSpoken e ∧ ∃ t ∈ words e, t ∉ s.percentWords) ∨
    ∃ c ∈ ['×', '÷'], e = [c]
  later : ∀ e ∈ s.later, IsSpoken e

end ChangeSpelling

namespace LanguagePack

variable (pack : LanguagePack)

/-- The words whose signs are put between those of the difference and of the percentage. -/
def betweenStrings : List String :=
  pack.words .multiplication ++ pack.words .division ++ pack.words .percentOf

/-- The words whose signs are put behind that of the percentage. -/
def laterStrings : List String :=
  pack.words .power ++ pack.words .squared ++ pack.words .squareRoot ++ pack.words .openParen ++
    pack.words .closeParen

/-- The words of a pack for a change by a percentage and what they are told apart from, in
characters. -/
def changeSpelling : ChangeSpelling where
  additions := (pack.words .addition).map String.toList
  subtractions := (pack.words .subtraction).map String.toList
  percentages := (pack.words .percentage).map String.toList
  verbs := PhraseKind.all.map fun kind => (pack.phrases kind).verbs.map String.toList
  links := PhraseKind.all.map fun kind => (pack.phrases kind).connectives.map String.toList
  between := pack.betweenStrings.map String.toList
  later := pack.laterStrings.map String.toList

variable {pack}

theorem changeSpelling_isApart {additions subtractions percentages between later : List (List Char)}
    {verbs links : List (List (List Char))} (hadditions : Spelled (pack.words .addition) additions)
    (hsubtractions : Spelled (pack.words .subtraction) subtractions)
    (hpercentages : Spelled (pack.words .percentage) percentages)
    (hbetween : Spelled pack.betweenStrings between) (hlater : Spelled pack.laterStrings later)
    (hverbs : List.Forall₂ Spelled (PhraseKind.all.map fun kind => (pack.phrases kind).verbs) verbs)
    (hlinks : List.Forall₂ Spelled
      (PhraseKind.all.map fun kind => (pack.phrases kind).connectives) links)
    (h : ChangeSpelling.IsApart
      ⟨additions, subtractions, percentages, verbs, links, between, later⟩) :
    pack.changeSpelling.IsApart := by
  have hspelling : pack.changeSpelling =
      ⟨additions, subtractions, percentages, verbs, links, between, later⟩ := by
    rw [← map_eq_of_spelled hverbs, ← map_eq_of_spelled hlinks, hadditions.eq_map,
      hsubtractions.eq_map, hpercentages.eq_map, hbetween.eq_map, hlater.eq_map]
    simp [changeSpelling, Function.comp_def]
  rw [hspelling]
  exact h

end LanguagePack

theorem changesApart_of_mem {pack : LanguagePack} (h : pack ∈ builtinPacks) :
    pack.changeSpelling.IsApart := by
  apply of_mem_builtinPacks h
  all_goals
    apply LanguagePack.changeSpelling_isApart
    iterate 7
      · repeat' constructor
    · constructor <;> decide +kernel

end CalcSpeech
