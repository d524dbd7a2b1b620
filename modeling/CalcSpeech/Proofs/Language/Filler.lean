import CalcSpeech.Language.FractionWord
import CalcSpeech.Proofs.NumberWord

/-!
# Filler

A filler word means nothing to a pack: it is no word of any phrase that a transcript is searched
for. In a row of filler, of tokens without letters and of some other words only phrases of these
other words can be found (`IsFilled.nowhere_found`).
-/

namespace CalcSpeech

open Unicode Pattern Vocabulary Text

/-- The phrases that a transcript is searched for: those of a pack, the scale words and the fraction
words. -/
def LanguagePack.searchedStrings (pack : LanguagePack) : List String :=
  pack.numbers.map (·.1) ++ WordList.all.flatMap pack.words ++
    PhraseKind.all.flatMap (fun kind =>
      (pack.phrases kind).verbs ++ (pack.phrases kind).connectives) ++
    scaleWords.map (·.1) ++ fractionWords.map (·.1)

/-- A word that means nothing to a pack: small letters in composed form, without the word for a
root, that are no word of any phrase. -/
structure IsFiller (pack : LanguagePack) (t : List Char) : Prop where
  ne_nil : t ≠ []
  letters : ∀ c ∈ t, isLetter c = true
  composed : Unicode.composed t = t
  small : Unicode.lowercase t = t
  rootless : ¬ "sqrt".toList <:+: t
  unknown : ∀ e ∈ pack.searchedStrings, t ∉ words e.toList

/-- Small Latin words are filler if they are no words of the phrases as characters. -/
theorem isFiller_of_spelled {pack : LanguagePack} {phrases : List (List Char)}
    (hphrases : Spelled pack.searchedStrings phrases) {ts : List (List Char)}
    (h : ∀ t ∈ ts, t ≠ [] ∧ (∀ c ∈ t, isSmallLatin c = true) ∧ ¬ "sqrt".toList <:+: t ∧
      ∀ e ∈ phrases, t ∉ words e) : ∀ t ∈ ts, IsFiller pack t := by
  intro t ht
  obtain ⟨hne, hsmall, hroot, hunknown⟩ := h t ht
  have hsteady : ∀ c ∈ t, Steady c := fun c hc => steady_of_isSmallLatin (hsmall c hc)
  rw [hphrases.eq_map] at hunknown
  exact {
    ne_nil := hne
    letters := fun c hc => isLetter_of_isSmallLatin (hsmall c hc)
    composed := composed_eq_self (fun c hc => (hsteady c hc).settled) fun c hc =>
      (hsteady c hc).base
    small := lowercaseAfter_of_steady hsteady []
    rootless := hroot
    unknown := fun e he => hunknown _ (List.mem_map_of_mem he) }

theorem IsFiller.isWord {pack : LanguagePack} {t : List Char} (h : IsFiller pack t) : IsWord t :=
  ⟨h.ne_nil, h.letters⟩

section Searched

variable {pack : LanguagePack} {q : String}

theorem mem_searched_number (h : q ∈ NumberWord.numberNames pack) : q ∈ pack.searchedStrings := by
  have hname : q ∈ pack.numbers.map (·.1) := h
  simp [LanguagePack.searchedStrings, hname]

theorem mem_searched_word {list : WordList} (h : q ∈ pack.words list) :
    q ∈ pack.searchedStrings := by
  have hlist : list ∈ WordList.all := by cases list <;> decide
  have hword : q ∈ WordList.all.flatMap pack.words := List.mem_flatMap.mpr ⟨list, hlist, h⟩
  simp [LanguagePack.searchedStrings, hword]

theorem mem_searched_phrase {kind : PhraseKind}
    (h : q ∈ (pack.phrases kind).verbs ∨ q ∈ (pack.phrases kind).connectives) :
    q ∈ pack.searchedStrings := by
  have hkind : kind ∈ PhraseKind.all := by cases kind <;> decide
  have hphrase : q ∈ PhraseKind.all.flatMap (fun kind =>
      (pack.phrases kind).verbs ++ (pack.phrases kind).connectives) :=
    List.mem_flatMap.mpr ⟨kind, hkind, List.mem_append.mpr h⟩
  simp only [LanguagePack.searchedStrings, List.mem_append, hphrase, or_true, true_or]

theorem mem_searched_scale (h : q ∈ scaleWords.map (·.1)) : q ∈ pack.searchedStrings := by
  simp only [LanguagePack.searchedStrings, List.mem_append, h, or_true, true_or]

theorem mem_searched_protected (h : q ∈ NumberWord.protectedPhrases pack) :
    q ∈ pack.searchedStrings := by
  rcases List.mem_append.mp (List.mem_filter.mp h).1 with hpercent | hscale
  · exact (List.mem_append.mp hpercent).elim mem_searched_word mem_searched_word
  · exact mem_searched_scale (List.mem_filter.mp hscale).1

end Searched

/-- Every token is filler, or has no letters, or is one of some words. -/
def IsFilled (pack : LanguagePack) (others tokens : List (List Char)) : Prop :=
  ∀ t ∈ tokens, IsFiller pack t ∨ (∀ c ∈ t, isLetter c = false) ∨ t ∈ others

section Filled

variable {pack : LanguagePack} {others tokens : List (List Char)} (h : IsFilled pack others tokens)

include h

/-- A word of a phrase is a token only if it is one of the other words. -/
theorem IsFilled.not_mem {q : String} (hq : q ∈ pack.searchedStrings) {t : List Char}
    (ht : t ∈ words q.toList) (hword : IsWord t) (hother : t ∉ others) : t ∉ tokens := by
  intro hmem
  rcases h t hmem with hfiller | hplain | hmem
  · exact hfiller.unknown q hq ht
  · obtain ⟨c, hc⟩ := List.exists_mem_of_ne_nil t hword.1
    exact Bool.false_ne_true ((hplain c hc).symm.trans (hword.2 c hc))
  · exact hother hmem

variable (hothers : ∀ t ∈ others, IsWord t)

include hothers

theorem IsFilled.isToken : ∀ t ∈ tokens, IsToken t := by
  intro t ht
  rcases h t ht with hfiller | hplain | hmem
  · exact Or.inl hfiller.letters
  · exact Or.inr hplain
  · exact Or.inl (hothers t hmem).2

/-- Phrases with another word, and signs that the row does not have, are not found in it. -/
theorem IsFilled.nowhere_found {phrases : List String}
    (hphrases : ∀ q ∈ phrases,
      (q ∈ pack.searchedStrings ∧ IsSpoken q.toList ∧ ∃ t ∈ words q.toList, t ∉ others) ∨
        ∃ c ∈ signs, q.toList = [c] ∧ c ∉ join [' '] tokens) {b : Option Char} :
    Nowhere (FoundAt phrases) b (join [' '] tokens) [] := by
  refine Vocabulary.nowhere_found (h.isToken hothers) fun q hq => (hphrases q hq).imp_left ?_
  rintro ⟨hmem, hspoken, t, ht, hother⟩
  exact ⟨hspoken, t, ht, h.not_mem hmem ht (hspoken.isWord_of_mem ht) hother⟩

/-- Phrases that do not begin with one of the other words do not begin in the row. -/
theorem IsFilled.nowhere_begins {phrases : List String}
    (hphrases : ∀ q ∈ phrases, q ∈ pack.searchedStrings ∧ IsSpoken q.toList ∧
      firstWord q.toList ∉ others) {b : Option Char} {a : List Char}
    (ha : a.head?.any isWordCharacter = false) :
    Nowhere (Begins phrases) b (join [' '] tokens) a := by
  refine nowhere_begins_row (fun q hq => (hphrases q hq).2.1) (h.isToken hothers)
    (fun q hq => ?_) ha
  obtain ⟨hmem, hspoken, hother⟩ := hphrases q hq
  exact h.not_mem hmem hspoken.firstWord_mem hspoken.isWord hother

end Filled

end CalcSpeech
