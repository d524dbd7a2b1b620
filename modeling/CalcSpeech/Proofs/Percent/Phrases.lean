import CalcSpeech.Proofs.NumberWord
import CalcSpeech.Proofs.Percent.Tokens

/-!
# Spoken percentages before they are read

A percentage in its phrase comes through all stages in front of the percentages as it was spoken
(`exists_row`). What takes work are the words for a percentage that are number words too: in
`por cento` the second word is a hundred, but the phrase is protected.
-/

namespace CalcSpeech

open Unicode Pattern Vocabulary Text NumberWord

/-- What marks a numeral as a percentage: a percent sign right behind it, or the sign or a word for
it behind a space. -/
inductive PercentMark (pack : LanguagePack) : List Char → Prop
  | attached : PercentMark pack ['%']
  | apart {p} : p ∈ "%" :: pack.words .percentage → PercentMark pack (' ' :: p.toList)

/-- A numeral or a word that stands around a percentage. -/
def IsCarrier (pack : LanguagePack) (t : List Char) : Prop :=
  IsNumeral t ∨ t ∈ pack.spelling.carriers

section Rows

variable {pack : LanguagePack} {t : List Char}

theorem IsCarrier.phraseToken (h : IsCarrier pack t) : PhraseToken pack t := by
  rcases h with hn | hc
  · exact .numeral hn
  · exact .word (List.mem_append_left _ hc)

/-- A word that stands around a percentage is a word of the pack. -/
theorem IsCarrier.mem_of_isWord (h : IsCarrier pack t) (ht : IsWord t) :
    t ∈ pack.spelling.carriers := by
  rcases h with hn | hc
  · exact absurd rfl (hn.ne_word ht)
  · exact hc

variable (hpack : pack.IsOrdinary) (hapart : pack.spelling.IsApart)
  {front marked back : List (List Char)} (hfront : ∀ t ∈ front, IsCarrier pack t)
  (hback : ∀ t ∈ back, IsCarrier pack t)

include hapart

/-- Around a percentage no number word and no protected phrase begins. -/
theorem IsCarrier.not_mem_firsts {ts : List (List Char)} (hts : ∀ t ∈ ts, IsCarrier pack t)
    {e : List Char} (he : IsSpoken e)
    (hfirsts : e ∈ pack.spelling.numbers ∨ e ∈ pack.spelling.guarded) : firstWord e ∉ ts := by
  intro hmem
  have hcarrier := (hts _ hmem).mem_of_isWord he.isWord
  rcases hfirsts with hnumber | hguarded
  · exact hapart.carrier_number _ hcarrier (List.mem_map_of_mem hnumber)
  · exact hapart.carrier_guarded _ hcarrier (List.mem_map_of_mem hguarded)

/-- The number words of the pack as phrases that begin at no carrier. -/
theorem spoken_numberNames : ∀ q ∈ numberNames pack, IsSpoken q.toList ∧
    (q.toList ∈ pack.spelling.numbers ∨ q.toList ∈ pack.spelling.guarded) := by
  intro q hq
  obtain ⟨hnumber, hspoken⟩ := mem_spelling_numbers hapart hq
  exact ⟨hspoken, Or.inl hnumber⟩

/-- The protected phrases of the pack likewise. -/
theorem spoken_protectedPhrases : ∀ q ∈ protectedPhrases pack, IsSpoken q.toList ∧
    (q.toList ∈ pack.spelling.numbers ∨ q.toList ∈ pack.spelling.guarded) := by
  intro q hq
  obtain ⟨hguarded, hspoken⟩ := mem_spelling_guarded hapart hq
  exact ⟨hspoken, Or.inr hguarded⟩

include hpack hfront hback

/-- A row in which the percentage has no number word either. -/
theorem numberWords_plain {lexicon : Lexicon} (hof : lexicon.IsOf pack)
    (hmarked : ∀ t ∈ marked, PhraseToken pack t)
    (hfirsts : ∀ e ∈ pack.spelling.numbers, firstWord e ∉ marked) :
    NumberWord.rewrite lexicon.numberWords (join [' '] (front ++ (marked ++ back))) =
      join [' '] (front ++ (marked ++ back)) := by
  apply NumberWord.rewrite_eq_self hof.numberWords
  intro reader
  apply rewriteRun_eq_self hpack
  refine nowhere_begins_join hapart ?_ (fun q hq => (mem_spelling_numbers hapart hq).2) ?_ rfl
  · intro t ht
    simp only [List.mem_append] at ht
    rcases ht with ht | ht | ht
    · exact (hfront t ht).phraseToken
    · exact hmarked t ht
    · exact (hback t ht).phraseToken
  · intro q hq hmem
    obtain ⟨hnumber, hspoken⟩ := mem_spelling_numbers hapart hq
    simp only [List.mem_append] at hmem
    rcases hmem with hmem | hmem | hmem
    · exact IsCarrier.not_mem_firsts hapart hfront hspoken (Or.inl hnumber) hmem
    · exact hfirsts _ hnumber hmem
    · exact IsCarrier.not_mem_firsts hapart hback hspoken (Or.inl hnumber) hmem

/-- A row in which the percentage is spoken in more than one word. -/
theorem numberWords_protected {lexicon : Lexicon} (hof : lexicon.IsOf pack) {n : List Char}
    (hn : IsNumeral n) {p : String} (hp : p ∈ pack.words .percentage)
    (hwords : words p.toList ≠ [p.toList]) :
    NumberWord.rewrite lexicon.numberWords (join [' '] (front ++ (n :: words p.toList ++ back))) =
      join [' '] (front ++ (n :: words p.toList ++ back)) := by
  have hmem : p.toList ∈ pack.spelling.percentages := List.mem_map_of_mem hp
  have hspoken : IsSpoken p.toList := hapart.spoken_percentage hmem
  have hfrontn : ∀ t ∈ front ++ [n], IsCarrier pack t :=
    List.forall_mem_append.mpr ⟨hfront, List.forall_mem_singleton.mpr (Or.inl hn)⟩
  have hrow : front ++ (n :: words p.toList ++ back) =
      (front ++ [n]) ++ (words p.toList ++ back) := by simp
  have hnumbers := spoken_numberNames hapart
  have hguarded := spoken_protectedPhrases hapart
  have hno {ts : List (List Char)} (hts : ∀ t ∈ ts, IsCarrier pack t) {q : String}
      (hq : IsSpoken q.toList ∧
        (q.toList ∈ pack.spelling.numbers ∨ q.toList ∈ pack.spelling.guarded)) :
      firstWord q.toList ∉ ts := IsCarrier.not_mem_firsts hapart hts hq.1 hq.2
  rw [hrow]
  exact rewrite_protectedRow hapart hpack hof.numberWords
    (mem_protectedPhrases hspoken (Or.inl hp) hwords)
    ((hapart.percent_guarded _ hmem).resolve_left hwords)
    (fun t ht => (hfrontn t ht).phraseToken.isToken hapart)
    (fun t ht => (hback t ht).phraseToken.isToken hapart)
    (fun q hq => hno hfrontn ((List.mem_append.mp hq).elim (hnumbers q) (hguarded q)))
    fun q hq => hno hback (hnumbers q hq)

end Rows

/-! ## A marked numeral as tokens -/

/-- The tokens of a marked numeral. In every row of carriers around them the number words find
nothing. -/
structure IsMarkedRow (pack : LanguagePack) (lexicon : Lexicon) (spoken : List Char)
    (marked : List (List Char)) : Prop where
  ne_nil : marked ≠ []
  join_eq : join [' '] marked = spoken
  token : ∀ t ∈ marked, PhraseToken pack t
  word : ∀ t ∈ marked, IsWord t → t ∈ pack.spelling.percentWords
  kept : ∀ front back, (∀ t ∈ front, IsCarrier pack t) → (∀ t ∈ back, IsCarrier pack t) →
    NumberWord.rewrite lexicon.numberWords (join [' '] (front ++ (marked ++ back))) =
      join [' '] (front ++ (marked ++ back))

section Marked

variable {pack : LanguagePack} (hpack : pack.IsOrdinary) (hapart : pack.spelling.IsApart)
  {lexicon : Lexicon} (hof : lexicon.IsOf pack) {n : List Char} (hn : IsNumeral n)

include hpack hapart hof

/-- Tokens without words. -/
theorem isMarkedRow_of_not_word {spoken : List Char} {marked : List (List Char)} (hne : marked ≠ [])
    (hjoin : join [' '] marked = spoken) (htokens : ∀ t ∈ marked, PhraseToken pack t)
    (hwords : ∀ t ∈ marked, ¬ IsWord t) : IsMarkedRow pack lexicon spoken marked where
  ne_nil := hne
  join_eq := hjoin
  token := htokens
  word t ht hw := absurd hw (hwords t ht)
  kept front back hfront hback := by
    refine numberWords_plain hpack hapart hfront hback hof htokens ?_
    intro e he hmem
    exact hwords _ hmem (hapart.spoken_number he).isWord

include hn

/-- A word for a percentage behind the numeral. -/
theorem isMarkedRow_word {p : String} (hp : p ∈ pack.words .percentage) :
    IsMarkedRow pack lexicon (n ++ ' ' :: p.toList) (n :: words p.toList) := by
  have hmem : p.toList ∈ pack.spelling.percentages := List.mem_map_of_mem hp
  have hspoken : IsSpoken p.toList := hapart.spoken_percentage hmem
  have hpercent : ∀ t ∈ words p.toList, t ∈ pack.spelling.percentWords :=
    fun t ht => List.mem_flatMap.mpr ⟨_, hmem, ht⟩
  have htokens : ∀ t ∈ n :: words p.toList, PhraseToken pack t :=
    List.forall_mem_cons.mpr ⟨.numeral hn, fun t ht =>
      .word (List.mem_append_right _ (hpercent t ht))⟩
  refine ⟨by simp, ?_, htokens, ?_, ?_⟩
  · have hjoin : join [' '] ([n] ++ words p.toList) = _ := join_append (by simp) hspoken.1
    rw [hspoken.2.1] at hjoin
    exact hjoin
  · intro t ht hw
    rcases List.mem_cons.mp ht with rfl | ht
    · exact absurd rfl (hn.ne_word hw)
    · exact hpercent t ht
  · intro front back hfront hback
    -- a word for a percentage is no number word; of more words the phrase is protected
    by_cases hwords : words p.toList = [p.toList]
    · refine numberWords_plain hpack hapart hfront hback hof htokens ?_
      intro e he hmem'
      have hw := (hapart.spoken_number he).isWord
      rcases List.mem_cons.mp hmem' with heq | hin
      · exact hn.ne_word hw heq
      · have hfirst : firstWord p.toList = firstWord e := by
          rw [hwords, List.mem_singleton] at hin
          rw [hin, firstWord, hwords]
          rfl
        refine hapart.percent_number _ hmem ?_
        rw [hfirst]
        exact List.mem_map_of_mem he
    · exact numberWords_protected hpack hapart hfront hback hof hn hp hwords

/-- A marked numeral as tokens, in rows that reach the percentages as they are. -/
theorem exists_row {mark : List Char} (hmark : PercentMark pack mark) :
    ∃ marked, IsMarkedRow pack lexicon (n ++ mark) marked := by
  have hsign : ¬ IsWord ['%'] := fun h => absurd (h.2 '%' (by simp)) (by decide)
  cases hmark with
  | attached =>
    exact ⟨[n ++ ['%']], isMarkedRow_of_not_word hpack hapart hof (by simp) rfl
      (List.forall_mem_singleton.mpr (.marked hn))
      (List.forall_mem_singleton.mpr fun h => hn.append_ne_word h _ rfl)⟩
  | @apart p hp =>
    rcases List.mem_cons.mp hp with rfl | hp
    · exact ⟨[n, ['%']], isMarkedRow_of_not_word hpack hapart hof (by simp) (by simp [join])
        (List.forall_mem_cons.mpr ⟨.numeral hn, List.forall_mem_singleton.mpr .sign⟩)
        (List.forall_mem_cons.mpr ⟨fun h => hn.ne_word h rfl, List.forall_mem_singleton.mpr hsign⟩)⟩
    · exact ⟨_, isMarkedRow_word hpack hapart hof hn hp⟩

end Marked

end CalcSpeech
