import CalcSpeech.Proofs.Language.Apart
import CalcSpeech.Proofs.Numeral

/-!
# Words for the decimal point

A word for the decimal point is a single word that no other phrase of its pack begins with, so in
front of a numeral it begins nothing else (`nowhere_begins_spoken`).
-/

namespace CalcSpeech

open Unicode Vocabulary Text

namespace LanguagePack

/-- The phrases of a pack that are not for the decimal point, and the scale words. -/
def otherStrings (pack : LanguagePack) : List String :=
  pack.numbers.map (·.1) ++ (WordList.all.filter (· ≠ .decimalWords)).flatMap pack.words ++
    (PhraseKind.all.flatMap fun kind =>
      (pack.phrases kind).verbs ++ (pack.phrases kind).connectives) ++ scaleWords.map (·.1)

end LanguagePack

/-- A single word that begins no other phrase and has no letter that a root begins with. -/
structure PointWord (others : List (List Char)) (w : List Char) : Prop where
  spoken : IsSpoken w
  single : words w = [w]
  lone : w ∉ others.map firstWord
  rootless : 's' ∉ w

instance (others : List (List Char)) (w : List Char) : Decidable (PointWord others w) :=
  decidable_of_iff (IsSpoken w ∧ words w = [w] ∧ w ∉ others.map firstWord ∧ 's' ∉ w)
    ⟨fun h => ⟨h.1, h.2.1, h.2.2.1, h.2.2.2⟩, fun h => ⟨h.spoken, h.single, h.lone, h.rootless⟩⟩

/-- What is known of the words for the decimal point in a pack. -/
structure LanguagePack.HasPointWords (pack : LanguagePack) : Prop where
  word : ∀ w ∈ pack.words .decimalWords, PointWord (pack.otherStrings.map String.toList) w.toList
  distinct : Spelling.AreDistinct ((pack.words .decimalWords).map String.toList)

theorem LanguagePack.hasPointWords_of_spelled {pack : LanguagePack} {ds os : List (List Char)}
    (hds : Spelled (pack.words .decimalWords) ds) (hos : Spelled pack.otherStrings os)
    (h : (∀ d ∈ ds, PointWord os d) ∧ Spelling.AreDistinct ds) : pack.HasPointWords := by
  rw [hds.eq_map, hos.eq_map] at h
  exact ⟨fun w hw => h.1 _ (List.mem_map_of_mem hw), h.2⟩

theorem hasPointWords_of_mem {pack : LanguagePack} (h : pack ∈ builtinPacks) :
    pack.HasPointWords := by
  apply of_mem_builtinPacks h
  all_goals
    apply LanguagePack.hasPointWords_of_spelled
    iterate 2
      · repeat' constructor
    · decide +kernel

/-! ## Numerals in front of a decimal point -/

/-- Digits, a word for the decimal point, and a space. -/
def spokenFront (a w : List Char) : List Char := a ++ ' ' :: (w ++ [' '])

/-- Digits and a mark. -/
def writtenFront (a : List Char) (m : Char) : List Char := a ++ [m]

/-- Phrases that begin with no word for the decimal point, and signs. -/
def AreOther (pack : LanguagePack) (phrases : List String) : Prop :=
  ∀ p ∈ phrases, IsProper p.toList ∧ (p ∈ pack.otherStrings ∨ ∃ c ∈ signs, p.toList = [c])

section Fronts

variable {pack : LanguagePack} {phrases : List String}

theorem mem_otherStrings {p : String} (h : p ∈ pack.numbers.map (·.1) ∨
    (∃ list, list ≠ .decimalWords ∧ p ∈ pack.words list) ∨
    (∃ kind, p ∈ (pack.phrases kind).verbs ∨ p ∈ (pack.phrases kind).connectives) ∨
    p ∈ scaleWords.map (·.1)) : p ∈ pack.otherStrings := by
  simp only [LanguagePack.otherStrings, List.mem_append]
  rcases h with h | ⟨list, hlist, h⟩ | ⟨kind, h⟩ | h
  · exact Or.inl (Or.inl (Or.inl h))
  · have hall : list ∈ WordList.all := by cases list <;> decide
    exact Or.inl (Or.inl (Or.inr (List.mem_flatMap.mpr
      ⟨list, List.mem_filter.mpr ⟨hall, by simpa using hlist⟩, h⟩)))
  · have hall : kind ∈ PhraseKind.all := by cases kind <;> decide
    exact Or.inl (Or.inr (List.mem_flatMap.mpr ⟨kind, hall, List.mem_append.mpr h⟩))
  · exact Or.inr h

theorem areOther_scales : AreOther pack (scaleWords.map (·.1)) := by
  intro p hp
  exact ⟨(isPhrase_of_scaleWord p hp).1, Or.inl (mem_otherStrings (Or.inr (Or.inr (Or.inr hp))))⟩

theorem PointWord.isWord {others : List (List Char)} {w : List Char} (hw : PointWord others w) :
    IsWord w := by
  have hword := hw.spoken.isWord
  rwa [firstWord, hw.single] at hword

/-- Another phrase does not begin with a word for the decimal point. -/
theorem PointWord.ne_firstWord {w : List Char} {p : String}
    (hw : PointWord (pack.otherStrings.map String.toList) w) (h : AreOther pack phrases)
    (hp : p ∈ phrases) (hspoken : IsSpoken p.toList) : firstWord p.toList ≠ w := by
  intro hsame
  rcases (h p hp).2 with hother | ⟨c, hc, hsign⟩
  · apply hw.lone
    rw [← hsame]
    exact List.mem_map_of_mem (List.mem_map_of_mem hother)
  · exact hspoken.ne_sign hc hsign

/-- No other phrase begins where a word for the decimal point stands. -/
theorem PointWord.not_begins {w x : List Char} {b : Option Char}
    (hw : PointWord (pack.otherStrings.map String.toList) w) (h : AreOther pack phrases)
    (hx : x.head?.any isWordCharacter = false) (hb : b.any isWordCharacter = false) :
    ¬ Begins phrases b (w ++ x) :=
  not_begins_word hw.isWord hb hx fun _ hp hspoken => hw.ne_firstWord h hp hspoken

variable {a x : List Char} (ha : ∀ c ∈ a, isDecimalDigit c = true)

include ha

/-- Where there are no letters and no signs nothing begins. -/
theorem nowhere_begins_written {m : Char} (hm : m = '.' ∨ m = ',') :
    Nowhere (Begins phrases) none (writtenFront a m) x := by
  have hmark : isLetter m = false ∧ m ∉ signs := by rcases hm with rfl | rfl <;> decide
  have hdigit : ∀ c ∈ signs, isDecimalDigit c = false := by decide +kernel
  apply nowhere_begins
  · intro p _ hspoken
    apply nowhere_word_of_no_letter hspoken.isWord
    intro c hc
    rcases List.mem_append.mp hc with hc | hc
    · exact isLetter_of_isDecimalDigit (ha c hc)
    · rw [List.mem_singleton.mp hc]
      exact hmark.1
  · intro c hc _ hmem
    rcases List.mem_append.mp hmem with hmem | hmem
    · exact Bool.false_ne_true ((hdigit c hc).symm.trans (ha c hmem))
    · rw [List.mem_singleton.mp hmem] at hc
      exact hmark.2 hc

/-- In front of a spoken numeral nothing begins but the word for the decimal point. -/
theorem nowhere_begins_spoken {w : List Char}
    (hw : PointWord (pack.otherStrings.map String.toList) w) (h : AreOther pack phrases) :
    Nowhere (Begins phrases) none (spokenFront a w) x := by
  have hdigit : ∀ c ∈ signs, isDecimalDigit c = false := by decide +kernel
  have hlatin : ∀ c ∈ signs, isSmallLatin c = false := by decide
  have hspace : ' ' ∉ signs := by decide
  have hdigits : IsToken a := Or.inr fun c hc => isLetter_of_isDecimalDigit (ha c hc)
  -- the front is the row of the digits and the point word, and a space
  apply nowhere_begins
  · intro p hp hspoken
    have hne : firstWord p.toList ∉ [a, w] := by
      simp only [List.mem_cons, List.not_mem_nil, or_false, not_or]
      constructor
      · intro hsame
        obtain ⟨d, e, he⟩ := List.exists_cons_of_ne_nil hspoken.isWord.1
        have hletter := hspoken.isWord.2 d (by rw [he]; simp)
        rw [isLetter_of_isDecimalDigit (ha d (by rw [← hsame, he]; simp))] at hletter
        exact Bool.false_ne_true hletter
      · exact hw.ne_firstWord h hp hspoken
    have hrow : spokenFront a w = join [' '] [a, w] ++ [' '] := by simp [spokenFront, join]
    rw [hrow, nowhere_append]
    refine ⟨nowhere_join hspoken.isWord ?_ hne ?_, nowhere_space hspoken.isWord⟩
    · intro t ht
      simp only [List.mem_cons, List.not_mem_nil, or_false] at ht
      rcases ht with rfl | rfl
      · exact hdigits
      · exact Or.inl hw.isWord.2
    · show isWordCharacter ' ' = false
      decide
  · intro c hc _ hmem
    simp only [spokenFront, List.mem_append, List.mem_cons, List.not_mem_nil, or_false] at hmem
    rcases hmem with hmem | rfl | hmem | rfl
    · exact Bool.false_ne_true ((hdigit c hc).symm.trans (ha c hmem))
    · exact hspace hc
    · rcases hw.spoken.mem hmem with rfl | hletter
      · exact hspace hc
      · rw [hlatin c hc] at hletter
        exact Bool.false_ne_true hletter
    · exact hspace hc

end Fronts

end CalcSpeech
