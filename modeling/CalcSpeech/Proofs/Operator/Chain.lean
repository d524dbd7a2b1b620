import CalcSpeech.Proofs.Idle
import CalcSpeech.Proofs.Operator.Words

/-!
# Chains of operators

A chain is a numeral and any number of links, each an operator of a pack with a numeral behind it.
As a text it is a row of tokens, in which no phrase but the operators is found.
-/

namespace CalcSpeech

open Unicode Pattern Vocabulary Text

/-- An operator and the numeral behind it. -/
structure Link where
  list : WordList
  sign : Char
  word : String
  numeral : List Char

/-- The operator is one that a pack has for an operation. -/
structure Link.IsOf (pack : LanguagePack) (l : Link) : Prop where
  operation : (l.list, l.sign) ∈ operations
  word : l.word ∈ pack.words l.list
  numeral : IsNumeral l.numeral

/-- The links of a chain as a text, where `say` gives what is said or written for an operator. -/
def linksText (say : Link → List Char) (links : List Link) : List Char :=
  links.flatMap fun l => ' ' :: (say l ++ ' ' :: l.numeral)

/-- A chain as a text. -/
def chainText (say : Link → List Char) (n : List Char) (links : List Link) : List Char :=
  n ++ linksText say links

/-- A chain as it is spoken. -/
def Link.spoken (l : Link) : List Char := l.word.toList

section Texts

variable {say : Link → List Char} {l : Link} {links : List Link} {n : List Char}

theorem linksText_cons : linksText say (l :: links) =
    ' ' :: (say l ++ ' ' :: (l.numeral ++ linksText say links)) := by
  simp [linksText]

/-- The text of a chain is a row of tokens. -/
theorem chainText_eq_join (tokens : Link → List (List Char))
    (h : ∀ l ∈ links, tokens l ≠ [] ∧ join [' '] (tokens l) = say l) :
    chainText say n links = join [' '] (n :: links.flatMap fun l => tokens l ++ [l.numeral]) := by
  induction links generalizing n with
  | nil => simp [chainText, linksText, join]
  | cons l links ih =>
    obtain ⟨⟨hne, hl⟩, hrest⟩ := List.forall_mem_cons.mp h
    have hrow : n :: (l :: links).flatMap (fun l => tokens l ++ [l.numeral]) =
        [n] ++ (tokens l ++ (l.numeral :: links.flatMap fun l => tokens l ++ [l.numeral])) := by
      simp
    rw [hrow, join_append (by simp) (by simp [hne]), join_append hne (by simp), hl, ← ih hrest,
      chainText, linksText_cons]
    simp [join, chainText]

end Texts

section Chains

variable {pack : LanguagePack} (hpack : pack.IsOrdinary) {n : List Char} {links : List Link}
  (hn : IsNumeral n) (hlinks : ∀ l ∈ links, l.IsOf pack)

/-- The tokens of a spoken chain. -/
def chainTokens (n : List Char) (links : List Link) : List (List Char) :=
  n :: links.flatMap fun l => words l.spoken ++ [l.numeral]

include hpack in
theorem Link.IsOf.proper {l : Link} (h : l.IsOf pack) :
    IsProper l.spoken ∧ ∃ c ∈ l.spoken, isVerbal c = true := hpack.words h.word

theorem Link.IsOf.mem_operators {l : Link} (h : l.IsOf pack) :
    l.spoken ∈ pack.operatorSpelling.operators.flatten := by
  have hlist : (pack.words l.list).map String.toList ∈ pack.operatorSpelling.operators :=
    List.mem_map.mpr ⟨(l.list, l.sign), h.operation, rfl⟩
  exact List.mem_flatten.mpr ⟨_, hlist, List.mem_map_of_mem h.word⟩

theorem Link.IsOf.mem_tokens {l : Link} (h : l.IsOf pack) {t : List Char}
    (ht : t ∈ words l.spoken) : t ∈ pack.operatorSpelling.tokens :=
  List.mem_flatMap.mpr ⟨l.spoken, h.mem_operators, ht⟩

include hpack hlinks

theorem chainText_spoken : chainText Link.spoken n links = join [' '] (chainTokens n links) :=
  chainText_eq_join _ fun l hl => IsProper.join_words ((hlinks l hl).proper hpack).1

include hn

/-- The tokens of a chain are numerals, and words and signs of its operators. -/
theorem mem_chainTokens {t : List Char} (ht : t ∈ chainTokens n links) :
    IsNumeral t ∨ t ∈ pack.operatorSpelling.tokens ∧
      ((t ≠ [] ∧ ∀ c ∈ t, isSmallLatin c = true) ∨ t = ['×'] ∨ t = ['÷']) := by
  have hverbal : ∀ c ∈ signs, isVerbal c = true → c = '×' ∨ c = '÷' := by decide
  rcases List.mem_cons.mp ht with rfl | ht
  · exact Or.inl hn
  · obtain ⟨l, hl, ht⟩ := List.mem_flatMap.mp ht
    obtain ⟨hproper, d, hd, hown⟩ := (hlinks l hl).proper hpack
    rcases List.mem_append.mp ht with ht | ht
    · refine Or.inr ⟨(hlinks l hl).mem_tokens ht, ?_⟩
      rcases hproper with hspoken | ⟨c, hc, hsign⟩
      · exact Or.inl (hspoken.2.2 t ht)
      · rw [hsign] at hd ht
        rw [words_sign hc] at ht
        obtain rfl := List.mem_singleton.mp hd
        obtain rfl := List.mem_singleton.mp ht
        exact Or.inr ((hverbal d hc hown).imp (congrArg ([·])) (congrArg ([·])))
    · rw [List.mem_singleton.mp ht]
      exact Or.inl (hlinks l hl).numeral

theorem isToken_of_mem_chainTokens {t : List Char} (ht : t ∈ chainTokens n links) : IsToken t := by
  rcases mem_chainTokens hpack hn hlinks ht with hnumeral | ⟨-, ⟨-, hword⟩ | rfl | rfl⟩
  · exact hnumeral.isToken
  · exact Or.inl fun c hc => isLetter_of_isSmallLatin (hword c hc)
  · exact Or.inr (List.forall_mem_singleton.mpr (isLetter_of_sign (by decide)))
  · exact Or.inr (List.forall_mem_singleton.mpr (isLetter_of_sign (by decide)))

/-- What holds of digits, small letters and a few signs holds of the characters of a chain. -/
theorem forall_mem_chain {P : Char → Prop} (hdigit : ∀ c, isDecimalDigit c = true → P c)
    (hletter : ∀ c, isSmallLatin c = true → P c) (hother : ∀ c ∈ [' ', '.', '×', '÷'], P c) :
    ∀ c ∈ join [' '] (chainTokens n links), P c := by
  intro c hc
  rcases mem_join hc with rfl | ⟨t, ht, hc⟩
  · exact hother ' ' (by decide)
  · rcases mem_chainTokens hpack hn hlinks ht with hnumeral | ⟨-, ⟨-, hword⟩ | rfl | rfl⟩
    · rcases hnumeral.mem hc with hdigits | rfl
      · exact hdigit c hdigits
      · exact hother '.' (by decide)
    · exact hletter c (hword c hc)
    · obtain rfl := List.mem_singleton.mp hc
      exact hother '×' (by decide)
    · obtain rfl := List.mem_singleton.mp hc
      exact hother '÷' (by decide)

theorem isPlainSpoken_of_mem_chain :
    ∀ c ∈ join [' '] (chainTokens n links), Transcript.isPlainSpoken c = true := by
  refine forall_mem_chain hpack hn hlinks (P := (Transcript.isPlainSpoken · = true)) ?_ ?_ ?_
  · exact fun c hc => Transcript.isPlainSpoken_iff.mpr (Or.inl hc)
  · exact fun c hc => Transcript.isPlainSpoken_iff.mpr (Or.inr (Or.inl hc))
  · decide +kernel

/-! ## Stages in front of the operators -/

/-- A phrase with a word that no operator has is not found in a chain. -/
theorem nowhere_foreign {phrases : List String}
    (h : ∀ p ∈ phrases, pack.operatorSpelling.IsForeign p.toList) :
    Nowhere (FoundAt phrases) none (join [' '] (chainTokens n links)) [] := by
  apply nowhere_found fun t ht => isToken_of_mem_chainTokens hpack hn hlinks ht
  intro p hp
  obtain ⟨hspoken, t, ht, hlacks⟩ := h p hp
  refine Or.inl ⟨hspoken, t, ht, fun hmem => ?_⟩
  rcases mem_chainTokens hpack hn hlinks hmem with hnumeral | ⟨htokens, -⟩
  · exact hnumeral.ne_word (hspoken.isWord_of_mem ht) rfl
  · exact hlacks htokens

variable (hapart : pack.operatorSpelling.IsApart)

include hapart

/-- Of the phrases that are looked for before the operators none is found in a chain. -/
theorem nowhere_earlier {phrases : List String} (h : phrases ⊆ pack.earlierStrings) :
    Nowhere (FoundAt phrases) none (join [' '] (chainTokens n links)) [] :=
  nowhere_foreign hpack hn hlinks fun _ hp => hapart.other _ (List.mem_map_of_mem (h hp))

omit hapart in
theorem nowhere_exposed_chain :
    Nowhere ExposedPointAt none (join [' '] (chainTokens n links)) [] := by
  apply nowhere_join_of
  · intro b r h hspace
    rw [h.head] at hspace
    exact absurd hspace (by decide)
  · intro t ht b a
    rcases mem_chainTokens hpack hn hlinks ht with hnumeral | ⟨-, hother⟩
    · exact hnumeral.nowhere_exposed
    · refine nowhere_of_not_mem (fun _ _ => ExposedPointAt.head) fun hmem => ?_
      rcases hother with ⟨-, hword⟩ | rfl | rfl
      · exact absurd (hword '.' hmem) (by decide)
      · exact absurd hmem (by decide)
      · exact absurd hmem (by decide)

/-- The stages in front of the operators leave a chain as it is. -/
theorem rewriteAll_spokenChain {lexicon : Lexicon} (hof : lexicon.IsOf pack) :
    Stage.rewriteAll [.numberWords, .scaleNumbers, .fractions, .numeralMarks, .percentages] lexicon
      (join [' '] (chainTokens n links)) = join [' '] (chainTokens n links) := by
  have hearlier {phrases : List String} (h : phrases ⊆ pack.earlierStrings) :=
    nowhere_earlier hpack hn hlinks hapart h
  have hnumbers : NumberWord.numberNames pack ⊆ pack.earlierStrings :=
    fun _ hp => LanguagePack.mem_earlierStrings.mpr (Or.inl hp)
  have hscales : scaleWords.map (·.1) ⊆ pack.earlierStrings :=
    fun _ hp => LanguagePack.mem_earlierStrings.mpr (Or.inr (Or.inl hp))
  have hofWords : pack.words .ofWords ⊆ pack.earlierStrings :=
    fun _ hp => LanguagePack.mem_earlierStrings.mpr (Or.inr (Or.inr (Or.inl hp)))
  have hdecimals : pack.words .decimalWords ⊆ pack.earlierStrings :=
    fun _ hp => LanguagePack.mem_earlierStrings.mpr (Or.inr (Or.inr (Or.inr (Or.inl hp))))
  have hpercents : pack.words .percentage ⊆ pack.earlierStrings :=
    fun _ hp => LanguagePack.mem_earlierStrings.mpr (Or.inr (Or.inr (Or.inr (Or.inr hp))))
  have hsign : '%' ∉ join [' '] (chainTokens n links) := by
    intro hmem
    refine forall_mem_chain hpack hn hlinks (P := (· ≠ '%')) ?_ ?_ (by decide) '%' hmem rfl
    · rintro c hc rfl
      exact absurd hc (by decide)
    · rintro c hc rfl
      exact absurd hc (by decide)
  exact rewriteAll_idle hpack hof (isPlainSpoken_of_mem_chain hpack hn hlinks) (hearlier hnumbers)
    (hearlier hscales) (fractions_idle hof (hearlier hofWords)) (hearlier hdecimals)
    (nowhere_exposed_chain hpack hn hlinks) (hearlier hpercents) hsign

end Chains

end CalcSpeech
