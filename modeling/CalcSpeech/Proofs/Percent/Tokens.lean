import CalcSpeech.Proofs.Formula
import CalcSpeech.Proofs.Idle

/-!
# Phrases with a percentage, token by token

A spoken percentage is a row of tokens: numerals, percent signs, and words of the pack. Such a row
is in the form in which transcripts are read (`prepare_join_tokens`), and it passes through the
stages for scaled numbers, fractions and marks in numerals as it is, since no token begins what
these look for.
-/

namespace CalcSpeech

open Unicode Pattern Vocabulary Text

/-- The tokens that spoken percentages are made of. -/
inductive PhraseToken (pack : LanguagePack) : List Char → Prop
  | numeral {n} : IsNumeral n → PhraseToken pack n
  | marked {n} : IsNumeral n → PhraseToken pack (n ++ ['%'])
  | sign : PhraseToken pack ['%']
  | word {t} : t ∈ pack.spelling.carriers ++ pack.spelling.percentWords → PhraseToken pack t

section Tokens

variable {pack : LanguagePack} (hapart : pack.spelling.IsApart)

/-- The words of phrases in a list of phrases that are spoken. -/
theorem isSmall_of_mem_words {es : List (List Char)} (h : ∀ e ∈ es, IsSpoken e) {t : List Char}
    (ht : t ∈ es.flatMap words) : t ≠ [] ∧ ∀ c ∈ t, isSmallLatin c = true := by
  obtain ⟨e, he, hte⟩ := List.mem_flatMap.mp ht
  exact (h e he).2.2 t hte

include hapart

theorem isSmall_of_mem {t : List Char}
    (ht : t ∈ pack.spelling.carriers ++ pack.spelling.percentWords) :
    t ≠ [] ∧ ∀ c ∈ t, isSmallLatin c = true := by
  rcases List.mem_append.mp ht with ht | ht
  · refine isSmall_of_mem_words (fun e he => ?_) ht
    rcases List.mem_append.mp he with he | he
    · exact hapart.spoken_joint he
    · exact hapart.spoken_sign he
  · exact isSmall_of_mem_words (fun e he => hapart.spoken_percentage he) ht

/-- The characters of spoken percentages within their tokens. -/
theorem PhraseToken.mem {t : List Char} (h : PhraseToken pack t) {c : Char} (hc : c ∈ t) :
    isDecimalDigit c = true ∨ isSmallLatin c = true ∨ c ∈ ['.', '%'] := by
  have hnumeral {n : List Char} (hn : IsNumeral n) (hc : c ∈ n) :
      isDecimalDigit c = true ∨ isSmallLatin c = true ∨ c ∈ ['.', '%'] := by
    rcases hn.mem hc with hd | rfl
    · exact Or.inl hd
    · exact Or.inr (Or.inr (by decide))
  cases h with
  | numeral hn => exact hnumeral hn hc
  | marked hn =>
    rcases List.mem_append.mp hc with hc | hc
    · exact hnumeral hn hc
    · exact Or.inr (Or.inr (by rw [List.mem_singleton.mp hc]; decide))
  | sign => exact Or.inr (Or.inr (by rw [List.mem_singleton.mp hc]; decide))
  | word ht => exact Or.inr (Or.inl ((isSmall_of_mem hapart ht).2 c hc))

theorem PhraseToken.isToken {t : List Char} (h : PhraseToken pack t) : IsToken t := by
  have hpercent : ∀ c ∈ ['%'], isLetter c = false := by decide
  have hnumeral {n : List Char} (hn : IsNumeral n) : ∀ c ∈ n, isLetter c = false :=
    hn.forall_eq_false (by decide) fun _ => isLetter_of_isDecimalDigit
  cases h with
  | numeral hn => exact hn.isToken
  | marked hn => exact Or.inr (List.forall_mem_append.mpr ⟨hnumeral hn, hpercent⟩)
  | sign => exact Or.inr hpercent
  | word ht => exact Or.inl fun c hc => isLetter_of_isSmallLatin ((isSmall_of_mem hapart ht).2 c hc)

omit hapart in
/-- Of the tokens only the words of the pack are words. -/
theorem PhraseToken.mem_of_isWord {t : List Char} (h : PhraseToken pack t) (ht : IsWord t) :
    t ∈ pack.spelling.carriers ++ pack.spelling.percentWords := by
  cases h with
  | numeral hn => exact absurd rfl (hn.ne_word ht)
  | marked hn => exact absurd rfl (hn.append_ne_word ht ['%'])
  | sign => exact absurd (ht.2 '%' List.mem_cons_self) (by decide)
  | word ht => exact ht

/-! ## Rows of tokens -/

variable {tokens : List (List Char)} (htokens : ∀ t ∈ tokens, PhraseToken pack t)

include htokens

/-- The characters of spoken percentages. -/
theorem mem_join_tokens {c : Char} (hc : c ∈ join [' '] tokens) :
    isDecimalDigit c = true ∨ isSmallLatin c = true ∨ c ∈ ['.', '%', ' '] := by
  rcases mem_join hc with rfl | ⟨t, ht, hct⟩
  · exact Or.inr (Or.inr (by decide))
  · rcases (htokens t ht).mem hapart hct with hd | hl | hs
    · exact Or.inl hd
    · exact Or.inr (Or.inl hl)
    · exact Or.inr (Or.inr (List.mem_append_left [' '] hs))

/-- A character of another kind does not occur. -/
theorem not_mem_join_tokens {d : Char} (hdigit : isDecimalDigit d = false)
    (hletter : isSmallLatin d = false) (hother : d ∉ ['.', '%', ' ']) :
    d ∉ join [' '] tokens := by
  intro hd
  rcases mem_join_tokens hapart htokens hd with h | h | h
  · rw [h] at hdigit
    exact Bool.noConfusion hdigit
  · rw [h] at hletter
    exact Bool.noConfusion hletter
  · exact hother h

/-- Spoken percentages are plain spoken text. -/
theorem isPlainSpoken_join_tokens :
    ∀ c ∈ join [' '] tokens, Transcript.isPlainSpoken c = true := by
  intro c hc
  apply Transcript.isPlainSpoken_iff.mpr
  rcases mem_join_tokens hapart htokens hc with h | h | h
  · exact Or.inl h
  · exact Or.inr (Or.inl h)
  · have hsigns : ∀ c ∈ ['.', '%', ' '], c ∈ ['.', '%', ' ', '×', '÷'] := by decide
    exact Or.inr (Or.inr (hsigns c h))

/-- A row of tokens is in the form in which transcripts are read. -/
theorem prepare_join_tokens : Transcript.prepare (join [' '] tokens) = join [' '] tokens :=
  Transcript.prepare_of_plainSpoken fun c hc =>
    Or.inl (isPlainSpoken_join_tokens hapart htokens c hc)

/-- A vocabulary begins nowhere in a row of tokens that are not first words of its phrases. -/
theorem nowhere_begins_join {phrases : List String} (hspoken : ∀ p ∈ phrases, IsSpoken p.toList)
    (hne : ∀ p ∈ phrases, firstWord p.toList ∉ tokens) {b : Option Char} {a : List Char}
    (ha : a.head?.any isWordCharacter = false) :
    Nowhere (Begins phrases) b (join [' '] tokens) a :=
  nowhere_begins_row hspoken (fun t ht => (htokens t ht).isToken hapart) hne ha

omit hapart in
/-- First words that no word of a percentage is are no tokens. -/
theorem not_mem_tokens_of {es : List (List Char)} (hspoken : ∀ e ∈ es, IsSpoken e)
    (hne : ∀ t ∈ pack.spelling.carriers ++ pack.spelling.percentWords, t ∉ es.map firstWord)
    {e : List Char} (he : e ∈ es) : firstWord e ∉ tokens := by
  intro hmem
  have hword := (htokens _ hmem).mem_of_isWord (hspoken e he).isWord
  exact hne _ hword (List.mem_map_of_mem he)

/-! ## Stages that leave tokens alone -/

theorem scaleNumbers_join_tokens (mark : DecimalMark) (percent : Pattern) :
    ScaleNumber.rewrite mark (ScaleNumber.scaledSum percent) (join [' '] tokens) =
      join [' '] tokens := by
  have hspoken : ∀ e ∈ pack.spelling.scales, IsSpoken e := fun e he => hapart.spoken_scale he
  have hscales : ∀ p ∈ scaleWords.map (·.1), p.toList ∈ pack.spelling.scales :=
    fun p hp => List.mem_map_of_mem hp
  have hno : Nowhere (Begins (scaleWords.map (·.1))) none (join [' '] tokens) [] :=
    nowhere_begins_join hapart htokens (fun p hp => hspoken _ (hscales p hp))
      (fun p hp => not_mem_tokens_of htokens hspoken hapart.scale (hscales p hp)) rfl
  exact scaleNumbers_idle mark percent
    (hno.mono fun _ _ => begins_of_foundAt fun p hp => (isPhrase_of_scaleWord p hp).1)

/-- No word of a percentage is a fraction word. -/
theorem fractions_join_tokens {lexicon : Lexicon} (hof : lexicon.IsOf pack) :
    FractionPhrase.rewrite lexicon.numericFraction lexicon.spokenFraction (join [' '] tokens) =
      join [' '] tokens := by
  have hslash : '/' ∉ join [' '] tokens :=
    not_mem_join_tokens hapart htokens (by decide) (by decide) (by decide)
  refine fractions_join hof (fun t ht => (htokens t ht).isToken hapart) hslash fun t ht hword => ?_
  have hmem := (htokens t ht).mem_of_isWord hword
  exact FractionPhrase.fractionDenominator?_eq_none (isSmall_of_mem hapart hmem).2
    (hapart.fraction t hmem)

/-- Every period stands between two digits. -/
theorem nowhere_exposed_join_tokens : Nowhere ExposedPointAt none (join [' '] tokens) [] := by
  apply nowhere_join_of
  · intro b r h hspace
    rw [h.head] at hspace
    exact absurd hspace (by decide)
  · intro t ht b a
    have hplain {u a : List Char} {b : Option Char} (hu : '.' ∉ u) : Nowhere ExposedPointAt b u a :=
      nowhere_of_not_mem (fun _ _ => ExposedPointAt.head) hu
    cases htokens t ht with
    | numeral hn => exact hn.nowhere_exposed
    | marked hn => exact nowhere_append.mpr ⟨hn.nowhere_exposed, hplain (by decide)⟩
    | sign => exact hplain (by decide)
    | word hword =>
      apply hplain
      intro hpoint
      exact absurd ((isSmall_of_mem hapart hword).2 '.' hpoint) (by decide)

/-- The marks of numerals are in order already. -/
theorem numeralMarks_join_tokens (hpack : pack.IsOrdinary) {lexicon : Lexicon}
    (hof : lexicon.IsOf pack) :
    NumeralMark.rewrite pack.decimalMark lexicon.decimalPoint (join [' '] tokens) =
      join [' '] tokens := by
  have hdecimals : ∀ p ∈ pack.words .decimalWords, p.toList ∈ pack.spelling.decimals :=
    fun p hp => List.mem_map_of_mem hp
  have hspoken : ∀ e ∈ pack.spelling.decimals, IsSpoken e :=
    fun e he => hapart.spoken_decimal he
  have hwords : Nowhere (Begins (pack.words .decimalWords)) none (join [' '] tokens) [] :=
    nowhere_begins_join hapart htokens (fun p hp => hspoken _ (hdecimals p hp))
      (fun p hp => not_mem_tokens_of htokens hspoken hapart.decimal (hdecimals p hp)) rfl
  have hproper : ∀ p ∈ pack.words .decimalWords, IsProper p.toList :=
    fun p hp => (hpack.words hp).1
  exact numeralMarks_idle hof (isPlainSpoken_join_tokens hapart htokens)
    (hwords.mono fun _ _ => begins_of_foundAt hproper) (nowhere_exposed_join_tokens hapart htokens)

end Tokens

end CalcSpeech
