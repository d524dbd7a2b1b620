import CalcSpeech.Proofs.Language.Phrases
import CalcSpeech.Proofs.Lexicon
import CalcSpeech.Proofs.Text.Lowercase
import CalcSpeech.Proofs.Vocabulary.Order
import CalcSpeech.Stage

/-!
# Packs that are alike

All that a pack says by its word lists is which entries they have. Packs that are alike in this
(`LanguagePack.Alike`) have lexicons that differ in the packs they name and in nothing else
(`Lexicon.ofPack_alike`), so under both every transcript comes to the same expression
(`Lexicon.normalize_alike`).
-/

namespace CalcSpeech

open Text Unicode Vocabulary

/-- A pack with the code, the decimal mark and the number words of another, and with the same
entries in each of its word lists. -/
structure LanguagePack.Alike (pack other : LanguagePack) : Prop where
  code : pack.code = other.code
  decimalMark : pack.decimalMark = other.decimalMark
  numbers : pack.numbers = other.numbers
  words : ∀ list, Vocabulary.Alike (pack.words list) (other.words list)
  verbs : ∀ kind, Vocabulary.Alike (pack.phrases kind).verbs (other.phrases kind).verbs
  connectives : ∀ kind,
    Vocabulary.Alike (pack.phrases kind).connectives (other.phrases kind).connectives

/-- An entry has as many words as any phrase it is kept for. -/
theorem length_words_entry (phrase : String) :
    (words (entry phrase)).length = (words phrase.toList).length := by
  rw [entry, words_lowercase, words_collapse, List.length_map]

variable {pack other : LanguagePack}

/-! ## The parts of a lexicon -/

namespace LanguagePack.Alike

variable (h : pack.Alike other)

include h

/-- Whether a phrase is protected can be told from its entry. -/
theorem protectedPhrases : Vocabulary.Alike (NumberWord.protectedPhrases pack)
    (NumberWord.protectedPhrases other) := by
  unfold NumberWord.protectedPhrases
  apply Vocabulary.Alike.filter
  · intro p q hentry
    rw [Bool.eq_iff_iff, any_trim_iff, any_trim_iff, ← length_words_entry, ← length_words_entry,
      hentry]
  · exact ((h.words .percentOf).append (h.words .percentage)).append (.refl multiWordScales)

theorem reader : NumberWord.Reader.ofPack? pack = NumberWord.Reader.ofPack? other := by
  unfold NumberWord.Reader.ofPack?
  rw [h.code, h.numbers, (h.words .numberConnectors).pattern?_eq, h.protectedPhrases.pattern_eq]

theorem percentSign : PercentPhrase.sign pack = PercentPhrase.sign other :=
  ((h.words .percentage).cons "%").pattern_eq

theorem spokenPoint : NumeralMark.spokenPoint? pack = NumeralMark.spokenPoint? other := by
  unfold NumeralMark.spokenPoint?
  rw [(h.words .decimalWords).pattern?_eq, h.decimalMark]

theorem percentages :
    PercentPhrase.Patterns.ofPack pack = PercentPhrase.Patterns.ofPack other := by
  have hverb (kind : PhraseKind) (percent : Pattern) :
      PercentPhrase.verbPhrase? percent (pack.phrases kind) =
        PercentPhrase.verbPhrase? percent (other.phrases kind) := by
    unfold PercentPhrase.verbPhrase?
    rw [(h.verbs kind).pattern?_eq, (h.connectives kind).pattern?_eq]
  unfold PercentPhrase.Patterns.ofPack
  simp only [h.percentSign, (h.words .ofWords).pattern?_eq, hverb,
    ((h.words .addition).cons "+").pattern_eq, ((h.words .subtraction).cons "-").pattern_eq]

theorem operators : OperatorWord.Patterns.ofPack pack = OperatorWord.Patterns.ofPack other := by
  have hphrase (kind : PhraseKind) (percent : Pattern) :
      OperatorWord.phrasePattern? percent (pack.phrases kind) =
        OperatorWord.phrasePattern? percent (other.phrases kind) := by
    unfold OperatorWord.phrasePattern?
    rw [(h.verbs kind).pattern?_eq, (h.connectives kind).pattern?_eq]
  have hword (list : WordList) : pattern? (pack.words list) = pattern? (other.words list) :=
    (h.words list).pattern?_eq
  unfold OperatorWord.Patterns.ofPack
  simp only [h.percentSign, hphrase, hword]

end LanguagePack.Alike

/-! ## Lexicons and transcripts -/

/-- Packs that are alike lack a lexicon for the same fault, or have lexicons that differ in the pack
alone. -/
theorem Lexicon.ofPack_alike (h : pack.Alike other) :
    Lexicon.ofPack other = (Lexicon.ofPack pack).map ({ · with pack := other }) := by
  unfold Lexicon.ofPack
  rw [h.reader, (h.words .ofWords).pattern?_eq, h.percentSign, h.spokenPoint, h.percentages,
    h.operators]
  cases NumberWord.Reader.ofPack? other <;> rfl

/-- Nothing of a pack is read with beside its decimal mark and the patterns. -/
theorem Lexicon.normalize_withPack (lexicon : Lexicon)
    (h : lexicon.pack.decimalMark = other.decimalMark) (transcript : List Char) :
    { lexicon with pack := other }.normalize transcript = lexicon.normalize transcript := by
  have hstage (stage : Stage) :
      stage.rewrite { lexicon with pack := other } = stage.rewrite lexicon := by
    funext text
    cases stage with
    | scaleNumbers => simp only [Stage.rewrite, h]
    | numeralMarks => simp only [Stage.rewrite, h]
    | _ => rfl
  unfold Lexicon.normalize Stage.rewriteAll
  simp only [hstage]

/-- Either two packs that are alike have the same fault, or every transcript is read the same under
both. -/
theorem Lexicon.normalize_alike (h : pack.Alike other) :
    (∃ fault, Lexicon.ofPack pack = .error fault ∧ Lexicon.ofPack other = .error fault) ∨
      ∃ lexicon lexicon', Lexicon.ofPack pack = .ok lexicon ∧
        Lexicon.ofPack other = .ok lexicon' ∧
        ∀ transcript, lexicon.normalize transcript = lexicon'.normalize transcript := by
  have hother := Lexicon.ofPack_alike h
  cases hpack : Lexicon.ofPack pack with
  | error fault =>
    rw [hpack] at hother
    exact Or.inl ⟨fault, rfl, hother⟩
  | ok lexicon =>
    rw [hpack] at hother
    have hmark : lexicon.pack.decimalMark = other.decimalMark := by
      rw [(Lexicon.isOf_of_ofPack hpack).pack_eq, h.decimalMark]
    exact Or.inr ⟨lexicon, _, rfl, hother, fun t => (lexicon.normalize_withPack hmark t).symm⟩

/-- English with its lists turned around, and with the words for a percentage written in other
ways. -/
def restatedEnglish : LanguagePack :=
  { english with
    words := fun list =>
      if list = .percentage then ["Percentage", "  PER   cent", "", "per cent", "percent"]
      else (english.words list).reverse
    phrases := fun kind =>
      ⟨"  " :: (english.phrases kind).verbs, (english.phrases kind).connectives.reverse⟩ }

theorem normalize_restatedEnglish : english.Alike restatedEnglish ∧
    ∃ lexicon lexicon', Lexicon.ofPack english = .ok lexicon ∧
      Lexicon.ofPack restatedEnglish = .ok lexicon' ∧
      ∀ transcript, lexicon.normalize transcript = lexicon'.normalize transcript := by
  have hreverse (phrases : List String) : Vocabulary.Alike phrases phrases.reverse := by
    intro e _
    simp only [List.mem_reverse]
  have halike : english.Alike restatedEnglish := by
    refine ⟨rfl, rfl, rfl, ?_, ?_, fun kind => hreverse _⟩
    · intro list
      by_cases hlist : list = .percentage
      · rw [hlist]
        exact entries_eq_iff.mp (by decide)
      · simp only [restatedEnglish, if_neg hlist]
        exact hreverse _
    · intro kind e hne
      have hblank : entry "  " = [] := by decide
      simp [restatedEnglish, hblank, hne.symm]
  refine ⟨halike, ?_⟩
  rcases Lexicon.normalize_alike halike with ⟨fault, hfault, -⟩ | hsame
  · have hpack : english ∈ builtinPacks := List.mem_cons_self
    obtain ⟨lexicon, hlexicon, -⟩ := Lexicon.exists_of_mem hpack
    rw [hlexicon] at hfault
    cases hfault
  · exact hsame

end CalcSpeech
