import CalcSpeech.Proofs.Language.Filler
import CalcSpeech.Proofs.Percent.Forms
import CalcSpeech.Proofs.Unicode.Wordwise

/-!
# Percentages with filler around their words

With filler in front of each of its words and behind the last, `100 plus 5 percent` is a row of
tokens in which the stages in front of the percentages find as little as without
(`rewriteAll_filled`).
-/

namespace CalcSpeech

open Unicode Pattern Vocabulary Text

/-- The operations that change a quantity by a percentage, with their signs. -/
def changes : List (WordList × Char) := [(.addition, '+'), (.subtraction, '-')]

theorem mem_spelling_signs {pack : LanguagePack} {o : WordList × Char} (ho : o ∈ changes)
    {q : String} (hq : q ∈ pack.words o.1) : q.toList ∈ pack.spelling.signs := by
  simp only [changes, List.mem_cons, List.not_mem_nil, or_false] at ho
  rcases ho with rfl | rfl
  · exact List.mem_append_left _ (List.mem_map_of_mem hq)
  · exact List.mem_append_right _ (List.mem_map_of_mem hq)

/-- A quantity, a word for a sum or a difference, and a percentage with a word for it, with filler
in front of each of them and behind the last. -/
structure FilledPercentage (pack : LanguagePack) where
  operation : WordList × Char
  operation_mem : operation ∈ changes
  word : String
  word_mem : word ∈ pack.words operation.1
  percent : String
  percent_mem : percent ∈ pack.words .percentage
  base : List Char
  base_numeral : IsNumeral base
  rate : List Char
  rate_numeral : IsNumeral rate
  front : List (List Char)
  left : List (List Char)
  right : List (List Char)
  inner : List (List Char)
  back : List (List Char)
  filler : ∀ ts ∈ [front, left, right, inner, back], ∀ t ∈ ts, IsFiller pack t

namespace FilledPercentage

variable {pack : LanguagePack} (r : FilledPercentage pack)

/-- The row with these tokens for the word of the operation and for that of the percentage. -/
def row (operation percent : List (List Char)) : List (List Char) :=
  r.front ++ r.base :: (r.left ++ operation ++ r.right ++
    r.rate :: (r.inner ++ percent ++ r.back))

/-- The percentage with its filler as a text. -/
def text : List Char := join [' '] (r.row [r.word.toList] [r.percent.toList])

/-- The percentage without filler as a text. -/
def plain : List Char := join [' '] [r.base, r.word.toList, r.rate, r.percent.toList]

/-- The same percentage without any filler. -/
def bare : FilledPercentage pack :=
  { r with front := [], left := [], right := [], inner := [], back := [], filler := by simp }

/-- The row as it is spoken, word by word. -/
def tokens : List (List Char) := r.row (words r.word.toList) (words r.percent.toList)

/-! ## Tokens of the row -/

section Rows

variable {op pc others : List (List Char)}

theorem mem_row {t : List Char} (ht : t ∈ r.row op pc) :
    IsNumeral t ∨ IsFiller pack t ∨ t ∈ op ++ pc := by
  simp only [row, List.mem_append, List.mem_cons] at ht ⊢
  rcases ht with h | rfl | ((h | h) | h) | rfl | (h | h) | h
  · exact Or.inr (Or.inl (r.filler r.front (by simp) t h))
  · exact Or.inl r.base_numeral
  · exact Or.inr (Or.inl (r.filler r.left (by simp) t h))
  · exact Or.inr (Or.inr (Or.inl h))
  · exact Or.inr (Or.inl (r.filler r.right (by simp) t h))
  · exact Or.inl r.rate_numeral
  · exact Or.inr (Or.inl (r.filler r.inner (by simp) t h))
  · exact Or.inr (Or.inr (Or.inr h))
  · exact Or.inr (Or.inl (r.filler r.back (by simp) t h))

/-- The row as the tokens for the word of the operation and what stands around them. -/
theorem row_around_operation : r.row op pc = (r.front ++ r.base :: r.left) ++
    (op ++ (r.right ++ r.rate :: (r.inner ++ pc ++ r.back))) := by
  simp [row]

/-- The row as the tokens for the word of the percentage and what stands around them. -/
theorem row_around_percent : r.row op pc =
    (r.front ++ r.base :: (r.left ++ op ++ r.right ++ r.rate :: r.inner)) ++ (pc ++ r.back) := by
  simp [row]

/-- A character that is neither digit nor letter nor period is in the row only as one of the words
that it is for. -/
theorem not_mem_row {d : Char} (hdigit : isDecimalDigit d = false) (hletter : isLetter d = false)
    (hother : d ∉ ['.', ' ']) (h : ∀ t ∈ op ++ pc, d ∉ t) : d ∉ join [' '] (r.row op pc) := by
  simp only [List.mem_cons, List.not_mem_nil, or_false, not_or] at hother
  intro hd
  rcases mem_join hd with hspace | ⟨t, ht, hd⟩
  · exact hother.2 hspace
  · rcases r.mem_row ht with hn | hfiller | hmem
    · rcases hn.mem hd with hdigit' | hpoint
      · exact Bool.false_ne_true (hdigit.symm.trans hdigit')
      · exact hother.1 hpoint
    · exact Bool.false_ne_true (hletter.symm.trans (hfiller.letters d hd))
    · exact h t hmem hd

theorem isFilled_row (h : ∀ t ∈ op ++ pc, (∀ c ∈ t, isLetter c = false) ∨ t ∈ others) :
    IsFilled pack others (r.row op pc) := by
  intro t ht
  rcases r.mem_row ht with hn | hfiller | hmem
  · exact Or.inr (Or.inl (hn.forall_eq_false (by decide) fun _ => isLetter_of_isDecimalDigit))
  · exact Or.inl hfiller
  · exact Or.inr (h t hmem)

end Rows

/-! ## The words of the row -/

theorem word_mem_signs : r.word.toList ∈ pack.spelling.signs :=
  mem_spelling_signs r.operation_mem r.word_mem

theorem percent_mem_percentages : r.percent.toList ∈ pack.spelling.percentages :=
  List.mem_map_of_mem r.percent_mem

theorem mem_carriers {t : List Char} (ht : t ∈ words r.word.toList) :
    t ∈ pack.spelling.carriers :=
  List.mem_flatMap.mpr ⟨_, List.mem_append_right _ r.word_mem_signs, ht⟩

theorem mem_percentWords {t : List Char} (ht : t ∈ words r.percent.toList) :
    t ∈ pack.spelling.percentWords :=
  List.mem_flatMap.mpr ⟨_, r.percent_mem_percentages, ht⟩

/-- The words of the operation and of the percentage. -/
def known : List (List Char) := words r.word.toList ++ words r.percent.toList

theorem isFilled_tokens : IsFilled pack r.known r.tokens :=
  r.isFilled_row fun _ => Or.inr

section Spoken

variable (hapart : pack.spelling.IsApart)

include hapart

theorem spoken_word : IsSpoken r.word.toList := hapart.spoken_sign r.word_mem_signs

theorem spoken_percent : IsSpoken r.percent.toList :=
  hapart.spoken_percentage r.percent_mem_percentages

/-- The words of the row that are no filler are made of small letters. -/
theorem small_known : ∀ t ∈ r.known, t ≠ [] ∧ ∀ c ∈ t, isSmallLatin c = true := by
  intro t ht
  rcases List.mem_append.mp ht with h | h
  · exact (r.spoken_word hapart).2.2 t h
  · exact (r.spoken_percent hapart).2.2 t h

theorem isWord_known : ∀ t ∈ r.known, IsWord t := by
  intro t ht
  obtain ⟨hne, hsmall⟩ := r.small_known hapart t ht
  exact ⟨hne, fun c hc => isLetter_of_isSmallLatin (hsmall c hc)⟩

/-- The tokens of the row are the words of its text. -/
theorem text_eq_join : r.text = join [' '] r.tokens := by
  have hsolid {t : List Char} (hne : t ≠ []) (ht : ∀ c ∈ t, isBlank c = false) :
      words t = [t] ∧ t ≠ [] ∧ isTidy t = true := by
    have htidy := isTidyAfter_of_solid hne ht [] false
    rw [List.append_nil] at htidy
    exact ⟨words_of_solid hne ht, hne, by rw [isTidy, htidy, isTidyAfter, Bool.or_true]⟩
  have hspoken {e : List Char} (he : IsSpoken e) : e ≠ [] ∧ isTidy e = true := by
    refine ⟨?_, by rw [isTidy, he.isTidyAfter, Bool.or_true]⟩
    rintro rfl
    exact he.1 rfl
  have hplain : ∀ t, IsNumeral t ∨ IsFiller pack t → words t = [t] ∧ t ≠ [] ∧ isTidy t = true := by
    rintro t (hn | hfiller)
    · exact hsolid hn.ne_nil hn.solid
    · exact hsolid hfiller.ne_nil fun c hc => isBlank_of_isLetter (hfiller.letters c hc)
  have htidy : ∀ t ∈ r.row [r.word.toList] [r.percent.toList], t ≠ [] ∧ isTidy t = true := by
    intro t ht
    rcases r.mem_row ht with hn | hfiller | hmem
    · exact (hplain t (Or.inl hn)).2
    · exact (hplain t (Or.inr hfiller)).2
    · simp only [List.singleton_append, List.mem_cons, List.not_mem_nil, or_false] at hmem
      rcases hmem with rfl | rfl
      · exact hspoken (r.spoken_word hapart)
      · exact hspoken (r.spoken_percent hapart)
  -- only the word of the operation and that of the percentage have more than one word
  have hkept (ts : List (List Char)) (h : ts ∈ [r.front, r.left, r.right, r.inner, r.back]) :
      ts.flatMap words = ts := by
    rw [List.flatMap_congr fun t ht => (hplain t (Or.inr (r.filler ts h t ht))).1]
    exact List.flatMap_singleton' ts
  have htokens : (r.row [r.word.toList] [r.percent.toList]).flatMap words = r.tokens := by
    simp only [row, tokens, List.flatMap_append, List.flatMap_cons, List.flatMap_nil,
      List.append_nil, (hplain r.base (Or.inl r.base_numeral)).1,
      (hplain r.rate (Or.inl r.rate_numeral)).1]
    rw [hkept r.front (by simp), hkept r.left (by simp), hkept r.right (by simp),
      hkept r.inner (by simp), hkept r.back (by simp)]
    rfl
  rw [text, ← join_flatMap_words htidy, htokens]

/-- The tokens are made of digits, points and letters. -/
theorem mem_token {t : List Char} (ht : t ∈ r.tokens) {c : Char} (hc : c ∈ t) :
    isDecimalDigit c = true ∨ c = '.' ∨ isLetter c = true := by
  rcases r.mem_row ht with hn | hfiller | hmem
  · exact (hn.mem hc).imp_right Or.inl
  · exact Or.inr (Or.inr (hfiller.letters c hc))
  · exact Or.inr (Or.inr ((r.isWord_known hapart t hmem).2 c hc))

theorem token_ne {t : List Char} (ht : t ∈ r.tokens) {c d : Char} (hc : c ∈ t)
    (hdigit : isDecimalDigit d = false) (hletter : isLetter d = false) (hpoint : d ≠ '.') :
    c ≠ d := by
  rintro rfl
  rcases r.mem_token hapart ht hc with h | h | h
  · exact absurd h (by simp [hdigit])
  · exact hpoint h
  · exact absurd h (by simp [hletter])

/-- Every period stands between two digits. -/
theorem nowhere_exposed_text : Nowhere ExposedPointAt none (join [' '] r.tokens) [] := by
  apply nowhere_join_of
  · intro b r h hspace
    rw [h.head] at hspace
    exact absurd hspace (by decide)
  · intro t ht b a
    have hplain (hletters : ∀ c ∈ t, isLetter c = true) : Nowhere ExposedPointAt b t a :=
      nowhere_of_not_mem (fun _ _ => ExposedPointAt.head) fun h =>
        absurd (hletters '.' h) (by decide)
    rcases r.mem_row ht with hn | hfiller | hmem
    · exact hn.nowhere_exposed
    · exact hplain hfiller.letters
    · exact hplain (r.isWord_known hapart t hmem).2

/-- The row has no blanks but spaces. -/
theorem plainSpace_text : ∀ c ∈ join [' '] r.tokens, NumeralMark.plainSpace c = c := by
  intro c hc
  rcases mem_join hc with rfl | ⟨t, ht, hc⟩
  · decide
  · apply NumeralMark.plainSpace_of_solid
    rcases r.mem_token hapart ht hc with h | rfl | h
    · exact isBlank_of_isDecimalDigit h
    · decide
    · exact isBlank_of_isLetter h

/-! ## The stages in front of the percentages -/

theorem prepare_text : Transcript.prepare (join [' '] r.tokens) = join [' '] r.tokens := by
  have hsteady {t : List Char} (ht : ∀ c ∈ t, Steady c) :
      composed t = t ∧ lowercase t = t :=
    ⟨composed_eq_self (fun c hc => (ht c hc).settled) fun c hc => (ht c hc).base,
      lowercaseAfter_of_steady ht []⟩
  refine Transcript.prepare_join (fun t ht => ?_) fun t ht c hc => ?_
  · rcases r.mem_row ht with hn | hfiller | hmem
    · refine hsteady fun c hc => (hn.mem hc).elim steady_of_isDecimalDigit ?_
      rintro rfl
      exact steady_of_lt (by decide) (by decide)
    · exact ⟨hfiller.composed, hfiller.small⟩
    · exact hsteady fun c hc => steady_of_isSmallLatin ((r.small_known hapart t hmem).2 c hc)
  · have hne {d : Char} (hdigit : isDecimalDigit d = false) (hletter : isLetter d = false)
        (hpoint : d ≠ '.') : c ≠ d := r.token_ne hapart ht hc hdigit hletter hpoint
    refine ⟨?_, hne (by decide +kernel) (by decide +kernel) (by decide)⟩
    rw [Transcript.plainDash, if_neg]
    simp only [not_or]
    exact ⟨hne (by decide +kernel) (by decide +kernel) (by decide),
      hne (by decide +kernel) (by decide +kernel) (by decide),
      hne (by decide +kernel) (by decide +kernel) (by decide)⟩

/-- Phrases that do not begin with a word of the operation or of the percentage are not found. -/
theorem nowhere_found_tokens {phrases : List String}
    (h : ∀ q ∈ phrases, q ∈ pack.searchedStrings ∧ IsSpoken q.toList ∧
      firstWord q.toList ∉ pack.spelling.signs.flatMap words ++ pack.spelling.percentWords) :
    Nowhere (FoundAt phrases) none (join [' '] r.tokens) [] := by
  refine r.isFilled_tokens.nowhere_found (r.isWord_known hapart) fun q hq => ?_
  obtain ⟨hmem, hspoken, hother⟩ := h q hq
  refine Or.inl ⟨hmem, hspoken, _, hspoken.firstWord_mem, fun hknown => hother ?_⟩
  rcases List.mem_append.mp hknown with hword | hpercent
  · exact List.mem_append_left _ (List.mem_flatMap.mpr ⟨_, r.word_mem_signs, hword⟩)
  · exact List.mem_append_right _ (r.mem_percentWords hpercent)

variable (hpack : pack.IsOrdinary) {lexicon : Lexicon} (hof : lexicon.IsOf pack)

include hpack hof

/-- A single word for a percentage is no number word. -/
theorem numberWords_single (hwords : words r.percent.toList = [r.percent.toList]) :
    NumberWord.rewrite lexicon.numberWords (join [' '] r.tokens) = join [' '] r.tokens := by
  apply NumberWord.rewrite_eq_self hof.numberWords
  intro reader
  refine NumberWord.rewriteRun_eq_self hpack reader
    (r.isFilled_tokens.nowhere_begins (r.isWord_known hapart) (fun q hq => ?_) rfl)
  obtain ⟨hnumber, hspoken⟩ := NumberWord.mem_spelling_numbers hapart hq
  refine ⟨mem_searched_number hq, hspoken, fun hknown => ?_⟩
  rcases List.mem_append.mp hknown with hword | hpercent
  · exact hapart.carrier_number _ (r.mem_carriers hword) (List.mem_map_of_mem hnumber)
  · have hfirst : firstWord r.percent.toList = firstWord q.toList := by
      rw [hwords, List.mem_singleton] at hpercent
      rw [hpercent, firstWord, hwords, List.headD_cons]
    refine hapart.percent_number _ r.percent_mem_percentages ?_
    rw [hfirst]
    exact List.mem_map_of_mem hnumber

/-- More words for a percentage are protected. -/
theorem numberWords_protected (hwords : words r.percent.toList ≠ [r.percent.toList]) :
    NumberWord.rewrite lexicon.numberWords (join [' '] r.tokens) = join [' '] r.tokens := by
  -- without the percentage the row has no words of phrases but those of the operation
  have hplain : IsFilled pack (words r.word.toList) (r.row (words r.word.toList) []) :=
    r.isFilled_row fun t ht => Or.inr (by simpa using ht)
  have htoken := hplain.isToken fun t ht => (r.spoken_word hapart).isWord_of_mem ht
  have hno : ∀ q ∈ NumberWord.numberNames pack ++ NumberWord.protectedPhrases pack,
      firstWord q.toList ∉ r.row (words r.word.toList) [] := by
    intro q hq
    rcases List.mem_append.mp hq with hnumber | hprotected
    · obtain ⟨hmem, hspoken⟩ := NumberWord.mem_spelling_numbers hapart hnumber
      exact hplain.not_mem (mem_searched_number hnumber) hspoken.firstWord_mem hspoken.isWord
        fun h => hapart.carrier_number _ (r.mem_carriers h) (List.mem_map_of_mem hmem)
    · obtain ⟨hmem, hspoken⟩ := NumberWord.mem_spelling_guarded hapart hprotected
      exact hplain.not_mem (mem_searched_protected hprotected) hspoken.firstWord_mem
        hspoken.isWord fun h => hapart.carrier_guarded _ (r.mem_carriers h)
          (List.mem_map_of_mem hmem)
  rw [row_around_percent, List.nil_append] at htoken hno
  rw [tokens, row_around_percent]
  exact NumberWord.rewrite_protectedRow hapart hpack hof.numberWords
    (NumberWord.mem_protectedPhrases (r.spoken_percent hapart) (Or.inl r.percent_mem) hwords)
    ((hapart.percent_guarded _ r.percent_mem_percentages).resolve_left hwords)
    (fun t ht => htoken t (List.mem_append_left _ ht))
    (fun t ht => htoken t (List.mem_append_right _ ht))
    (fun q hq h => hno q hq (List.mem_append_left _ h))
    fun q hq h => hno q (List.mem_append_left _ hq) (List.mem_append_right _ h)

/-- The stages in front of the percentages find nothing. -/
theorem rewriteAll_filled :
    Stage.rewriteAll [.numberWords, .scaleNumbers, .fractions, .numeralMarks] lexicon
      (join [' '] r.tokens) = join [' '] r.tokens := by
  have hcarrier {t : List Char}
      (ht : t ∈ pack.spelling.signs.flatMap words ++ pack.spelling.percentWords) :
      t ∈ pack.spelling.carriers ++ pack.spelling.percentWords := by
    rw [Spelling.carriers, List.flatMap_append, List.append_assoc]
    exact List.mem_append_right _ ht
  have hnumbers : NumberWord.rewrite lexicon.numberWords (join [' '] r.tokens) =
      join [' '] r.tokens :=
    (em (words r.percent.toList = [r.percent.toList])).elim
      (r.numberWords_single hapart hpack hof) (r.numberWords_protected hapart hpack hof)
  have hscales : ScaleNumber.rewrite lexicon.pack.decimalMark
      (ScaleNumber.scaledSum (PercentPhrase.sign pack)) (join [' '] r.tokens) =
        join [' '] r.tokens := by
    refine scaleNumbers_idle _ _ (r.nowhere_found_tokens hapart fun q hq => ?_)
    have hmem : q.toList ∈ pack.spelling.scales := List.mem_map_of_mem hq
    exact ⟨mem_searched_scale hq, hapart.spoken_scale hmem,
      fun h => hapart.scale _ (hcarrier h) (List.mem_map_of_mem hmem)⟩
  have hfractions := fractions_idle hof (r.nowhere_found_tokens hapart fun q hq => by
    have hmem : q.toList ∈ pack.spelling.ofWords := List.mem_map_of_mem hq
    have hjoint : q.toList ∈ pack.spelling.joints := List.mem_append_right _ hmem
    refine ⟨mem_searched_word hq, hapart.spoken_joint hjoint, ?_⟩
    rw [(firstWord_of_joint hapart hjoint).1]
    exact hapart.of_sign _ hmem)
  have hcomma : ',' ∉ join [' '] r.tokens :=
    r.not_mem_row (by decide +kernel) (by decide +kernel) (by decide) fun t ht hcomma =>
      absurd ((r.small_known hapart t ht).2 ',' hcomma) (by decide +kernel)
  have hmarks := numeralMarks_of_not_found hof hcomma (r.plainSpace_text hapart)
    (r.nowhere_found_tokens hapart fun q hq => by
      have hmem : q.toList ∈ pack.spelling.decimals := List.mem_map_of_mem hq
      exact ⟨mem_searched_word hq, hapart.spoken_decimal hmem,
        fun h => hapart.decimal _ (hcarrier h) (List.mem_map_of_mem hmem)⟩)
    (r.nowhere_exposed_text hapart)
  simp only [Stage.rewriteAll, List.foldl_cons, List.foldl_nil, Stage.rewrite]
  rw [hnumbers, hof.scaledSum, hscales, hfractions, hof.pack_eq, hmarks]

end Spoken

end FilledPercentage

end CalcSpeech
