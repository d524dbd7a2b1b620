import CalcSpeech.Proofs.Language.Apart

/-!
# Words for the four operations

What keeps the words for sums, differences, products and quotients of a pack apart from its other
phrases (`operatorsApart_of_mem`): each phrase that is looked for before them has a word that no
operator has, an operator of a later list has no word that one of an earlier list begins with, and
of the phrases around two operands the verb or the connective cannot stand in a chain of operators.
-/

namespace CalcSpeech

open Unicode Vocabulary Text

/-- The lists of words for the four operations with their signs, in the order in which they are
rewritten. -/
def operations : List (WordList × Char) :=
  [(.addition, '+'), (.subtraction, '-'), (.multiplication, '*'), (.division, '/')]

/-- The operators of each operation, the phrases that are looked for before them, and the verbs and
connectives of the phrases around two operands, in characters. -/
structure OperatorSpelling where
  operators : List (List (List Char))
  others : List (List Char)
  verbs : List (List (List Char))
  links : List (List (List Char))

namespace OperatorSpelling

variable (s : OperatorSpelling)

/-- The words that operators are made of. -/
def tokens : List (List Char) := s.operators.flatten.flatMap words

/-- A spoken phrase with a word that is in no operator. -/
def IsForeign (e : List Char) : Prop := IsSpoken e ∧ ∃ t ∈ words e, t ∉ s.tokens

instance (e : List Char) : Decidable (s.IsForeign e) := inferInstanceAs (Decidable (_ ∧ _))

/-- The operators are told apart from other phrases and from each other. -/
structure IsApart : Prop where
  other : ∀ e ∈ s.others, s.IsForeign e
  earlier : s.operators.Pairwise fun es fs => ∀ e ∈ es, ∀ f ∈ fs, firstWord e ∉ words f
  phrase : ∀ t ∈ s.verbs.zip s.links, (∀ v ∈ t.1, s.IsForeign v) ∨
    ∀ l ∈ t.2, IsSpoken l ∧ firstWord l ∉ s.operators.flatten.map firstWord

end OperatorSpelling

namespace LanguagePack

variable (pack : LanguagePack)

/-- The phrases that are looked for before the operators. -/
def earlierStrings : List String :=
  pack.numbers.map (·.1) ++ scaleWords.map (·.1) ++ pack.words .ofWords ++
    pack.words .decimalWords ++ pack.words .percentage

/-- The operators of a pack and what they are told apart from, in characters. -/
def operatorSpelling : OperatorSpelling where
  operators := operations.map fun o => (pack.words o.1).map String.toList
  others := pack.earlierStrings.map String.toList
  verbs := PhraseKind.all.map fun kind => (pack.phrases kind).verbs.map String.toList
  links := PhraseKind.all.map fun kind => (pack.phrases kind).connectives.map String.toList

variable {pack}

theorem mem_earlierStrings {p : String} : p ∈ pack.earlierStrings ↔
    p ∈ pack.numbers.map (·.1) ∨ p ∈ scaleWords.map (·.1) ∨ p ∈ pack.words .ofWords ∨
      p ∈ pack.words .decimalWords ∨ p ∈ pack.words .percentage := by
  simp only [earlierStrings, List.mem_append, or_assoc]

/-- Lists of strings that are spelled out list by list. -/
theorem map_eq_of_spelled {sss : List (List String)} {lss : List (List (List Char))}
    (h : List.Forall₂ Spelled sss lss) : sss.map (·.map String.toList) = lss := by
  induction h with
  | nil => rfl
  | cons hs _ ih => rw [List.map_cons, ih, hs.eq_map]

theorem operatorSpelling_isApart {operators verbs links : List (List (List Char))}
    {others : List (List Char)}
    (hoperators : List.Forall₂ Spelled (operations.map fun o => pack.words o.1) operators)
    (hothers : Spelled pack.earlierStrings others)
    (hverbs : List.Forall₂ Spelled (PhraseKind.all.map fun kind => (pack.phrases kind).verbs) verbs)
    (hlinks : List.Forall₂ Spelled
      (PhraseKind.all.map fun kind => (pack.phrases kind).connectives) links)
    (h : OperatorSpelling.IsApart ⟨operators, others, verbs, links⟩) :
    pack.operatorSpelling.IsApart := by
  have hspelling : pack.operatorSpelling = ⟨operators, others, verbs, links⟩ := by
    rw [← map_eq_of_spelled hoperators, ← map_eq_of_spelled hverbs, ← map_eq_of_spelled hlinks,
      hothers.eq_map]
    simp [operatorSpelling, Function.comp_def]
  rw [hspelling]
  exact h

end LanguagePack

theorem operatorsApart_of_mem {pack : LanguagePack} (h : pack ∈ builtinPacks) :
    pack.operatorSpelling.IsApart := by
  apply of_mem_builtinPacks h
  all_goals
    apply LanguagePack.operatorSpelling_isApart
    iterate 4
      · repeat' constructor
    · constructor <;> decide +kernel

end CalcSpeech
