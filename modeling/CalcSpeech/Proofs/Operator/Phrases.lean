import CalcSpeech.Proofs.Expression.Row
import CalcSpeech.Proofs.Idle
import CalcSpeech.Proofs.Operator.Verbs
import CalcSpeech.Proofs.Percent.Reading

/-!
# Phrases around two operands

A phrase such as `subtract 3 from 10` is four tokens: a verb, an operand, a connective and an
operand. The stages in front of the operators find nothing in it (`rewriteAll_spokenPhrase`). Of the
patterns for phrases those of other kinds do not find their verb, and its own reads all of it
(`rewritePhrase_own`), so that it comes to its two operands with the sign of its kind
(`normalize_spokenPhrase`).
-/

namespace CalcSpeech

open Unicode Pattern Vocabulary Text

/-- A phrase around two operands as it is spoken with the words of a pack, and its expression. -/
inductive SpokenPhrase (pack : LanguagePack) : List Char → List Char → Prop
  /-- add A to B -/
  | add {verb link a b} : verb ∈ (pack.phrases .add).verbs →
      link ∈ (pack.phrases .add).connectives → IsNumeral a → IsNumeral b →
      SpokenPhrase pack (verb.toList ++ ' ' :: (a ++ ' ' :: (link.toList ++ ' ' :: b)))
        (a ++ " + ".toList ++ b)
  /-- subtract A from B -/
  | subtract {verb link a b} : verb ∈ (pack.phrases .subtract).verbs →
      link ∈ (pack.phrases .subtract).connectives → IsNumeral a → IsNumeral b →
      SpokenPhrase pack (verb.toList ++ ' ' :: (a ++ ' ' :: (link.toList ++ ' ' :: b)))
        (b ++ " - ".toList ++ a)
  /-- multiply A by B -/
  | multiply {verb link a b} : verb ∈ (pack.phrases .multiply).verbs →
      link ∈ (pack.phrases .multiply).connectives → IsNumeral a → IsNumeral b →
      SpokenPhrase pack (verb.toList ++ ' ' :: (a ++ ' ' :: (link.toList ++ ' ' :: b)))
        (b ++ " * ".toList ++ a)
  /-- divide A by B -/
  | divide {verb link a b} : verb ∈ (pack.phrases .divide).verbs →
      link ∈ (pack.phrases .divide).connectives → IsNumeral a → IsNumeral b →
      SpokenPhrase pack (verb.toList ++ ' ' :: (a ++ ' ' :: (link.toList ++ ' ' :: b)))
        (b ++ " / ".toList ++ a)

/-- The operands of a phrase with the sign of its kind are a row of symbols. -/
theorem phraseText_eq_join (kind : PhraseKind) {a b : List Char} (ha : IsNumeral a)
    (hb : IsNumeral b) : ∃ x s y, OperatorWord.phraseText kind a b = join [' '] [x, [s], y] ∧
      IsNumeral x ∧ s ∈ ['+', '-', '*', '/'] ∧ IsNumeral y := by
  cases kind with
  | add => exact ⟨a, '+', b, by simp [OperatorWord.phraseText, join], ha, by decide, hb⟩
  | subtract => exact ⟨b, '-', a, by simp [OperatorWord.phraseText, join], hb, by decide, ha⟩
  | multiply => exact ⟨b, '*', a, by simp [OperatorWord.phraseText, join], hb, by decide, ha⟩
  | divide => exact ⟨b, '/', a, by simp [OperatorWord.phraseText, join], hb, by decide, ha⟩

/-- The tokens of a phrase. -/
def phraseTokens (verb : String) (a : List Char) (link : String) (b : List Char) :
    List (List Char) := [verb.toList, a, link.toList, b]

theorem join_phraseTokens {verb link : String} {a b : List Char} :
    join [' '] (phraseTokens verb a link b) =
      verb.toList ++ ' ' :: (a ++ ' ' :: (link.toList ++ ' ' :: b)) := by
  simp [phraseTokens, join]

section Phrases

variable {pack : LanguagePack} (hapart : pack.phraseSpelling.IsApart) {kind : PhraseKind}

theorem mem_kinds (kind : PhraseKind) : kind ∈ PhraseKind.all := by cases kind <;> decide

theorem mem_spelling_verbs {verb : String} (h : verb ∈ (pack.phrases kind).verbs) :
    verb.toList ∈ pack.phraseSpelling.verbs.flatten :=
  List.mem_flatten.mpr ⟨_, List.mem_map_of_mem (mem_kinds kind), List.mem_map_of_mem h⟩

theorem mem_spelling_links {link : String} (h : link ∈ (pack.phrases kind).connectives) :
    link.toList ∈ pack.phraseSpelling.links.flatten :=
  List.mem_flatten.mpr ⟨_, List.mem_map_of_mem (mem_kinds kind), List.mem_map_of_mem h⟩

variable {verb link : String} {a b : List Char} (hverb : verb ∈ (pack.phrases kind).verbs)
  (hlink : link ∈ (pack.phrases kind).connectives) (ha : IsNumeral a) (hb : IsNumeral b)

include hapart hverb hlink ha hb

/-- The tokens of a phrase are numerals and words of phrases. -/
theorem mem_phraseTokens {t : List Char} (ht : t ∈ phraseTokens verb a link b) :
    IsNumeral t ∨ t ∈ pack.phraseSpelling.tokens ∧ ∀ c ∈ t, isSmallLatin c = true := by
  have hword {e : List Char} (he : e ∈ pack.phraseSpelling.tokens) :
      ∀ c ∈ e, isSmallLatin c = true := by
    obtain ⟨hspoken, hwords⟩ := hapart.single e he
    exact (hspoken.2.2 e (by rw [hwords]; exact List.mem_cons_self)).2
  have hverb' := List.mem_append_left pack.phraseSpelling.links.flatten (mem_spelling_verbs hverb)
  have hlink' := List.mem_append_right pack.phraseSpelling.verbs.flatten (mem_spelling_links hlink)
  simp only [phraseTokens, List.mem_cons, List.not_mem_nil, or_false] at ht
  rcases ht with rfl | rfl | rfl | rfl
  · exact Or.inr ⟨hverb', hword hverb'⟩
  · exact Or.inl ha
  · exact Or.inr ⟨hlink', hword hlink'⟩
  · exact Or.inl hb

theorem isToken_of_mem_phraseTokens {t : List Char} (ht : t ∈ phraseTokens verb a link b) :
    IsToken t := by
  rcases mem_phraseTokens hapart hverb hlink ha hb ht with hn | ⟨-, hword⟩
  · exact hn.isToken
  · exact Or.inl fun c hc => isLetter_of_isSmallLatin (hword c hc)

/-- What holds of digits, small letters, the period and the space holds of the characters of a
phrase. -/
theorem forall_mem_phrase {P : Char → Prop} (hdigit : ∀ c, isDecimalDigit c = true → P c)
    (hletter : ∀ c, isSmallLatin c = true → P c) (hother : ∀ c ∈ [' ', '.'], P c) :
    ∀ c ∈ join [' '] (phraseTokens verb a link b), P c := by
  intro c hc
  rcases mem_join hc with rfl | ⟨t, ht, hc⟩
  · exact hother ' ' (by decide)
  · rcases mem_phraseTokens hapart hverb hlink ha hb ht with hn | ⟨-, hword⟩
    · rcases hn.mem hc with hd | rfl
      · exact hdigit c hd
      · exact hother '.' (by decide)
    · exact hletter c (hword c hc)

theorem not_mem_phrase {d : Char} (hdigit : isDecimalDigit d = false)
    (hletter : isSmallLatin d = false) (hother : d ∉ [' ', '.']) :
    d ∉ join [' '] (phraseTokens verb a link b) := by
  intro hd
  refine forall_mem_phrase hapart hverb hlink ha hb (P := (· ≠ d)) ?_ ?_ ?_ d hd rfl
  · rintro c hc rfl
    exact Bool.false_ne_true (hdigit.symm.trans hc)
  · rintro c hc rfl
    exact Bool.false_ne_true (hletter.symm.trans hc)
  · rintro c hc rfl
    exact hother hc

/-- A phrase is not found around two operands if one of its words is not the verb or connective. -/
theorem nowhere_phrase {phrases : List String} (h : ∀ p ∈ phrases, IsSpoken p.toList ∧
      ∃ t ∈ words p.toList, t ≠ verb.toList ∧ t ≠ link.toList) :
    Nowhere (FoundAt phrases) none (join [' '] (phraseTokens verb a link b)) [] := by
  apply nowhere_found fun t ht => isToken_of_mem_phraseTokens hapart hverb hlink ha hb ht
  intro p hp
  obtain ⟨hspoken, t, ht, hne⟩ := h p hp
  refine Or.inl ⟨hspoken, t, ht, fun hmem => ?_⟩
  have hnumeral {n : List Char} (hn : IsNumeral n) : t ≠ n := hn.ne_word (hspoken.isWord_of_mem ht)
  simp only [phraseTokens, List.mem_cons, List.not_mem_nil, or_false] at hmem
  rcases hmem with h | h | h | h
  · exact hne.1 h
  · exact hnumeral ha h
  · exact hne.2 h
  · exact hnumeral hb h

/-- Of the numbers, scales, decimal points and percentages of a pack none is found. -/
theorem nowhere_quantity {phrases : List String} (h : phrases ⊆ pack.quantityStrings) :
    Nowhere (FoundAt phrases) none (join [' '] (phraseTokens verb a link b)) [] := by
  apply nowhere_phrase hapart hverb hlink ha hb
  intro p hp
  obtain ⟨hspoken, t, ht, hlacks⟩ := hapart.other _ (List.mem_map_of_mem (h hp))
  refine ⟨hspoken, t, ht, ?_, ?_⟩
  · rintro rfl
    exact hlacks (List.mem_append_left _ (mem_spelling_verbs hverb))
  · rintro rfl
    exact hlacks (List.mem_append_right _ (mem_spelling_links hlink))

theorem isPlainSpoken_of_mem_phrase :
    ∀ c ∈ join [' '] (phraseTokens verb a link b), Transcript.isPlainSpoken c = true := by
  refine forall_mem_phrase hapart hverb hlink ha hb (P := (Transcript.isPlainSpoken · = true))
    ?_ ?_ ?_
  · exact fun c hc => Transcript.isPlainSpoken_iff.mpr (Or.inl hc)
  · exact fun c hc => Transcript.isPlainSpoken_iff.mpr (Or.inr (Or.inl hc))
  · decide

/-- The stages in front of the operators leave a phrase as it is. -/
theorem rewriteAll_spokenPhrase (hpack : pack.IsOrdinary) {lexicon : Lexicon} (hof : lexicon.IsOf pack) :
    Stage.rewriteAll [.numberWords, .scaleNumbers, .fractions, .numeralMarks, .percentages] lexicon
      (join [' '] (phraseTokens verb a link b)) = join [' '] (phraseTokens verb a link b) := by
  have hquantity {phrases : List String} (h : phrases ⊆ pack.quantityStrings) :=
    nowhere_quantity hapart hverb hlink ha hb h
  have hnumbers : NumberWord.numberNames pack ⊆ pack.quantityStrings :=
    fun _ hp => LanguagePack.mem_quantityStrings.mpr (Or.inl hp)
  have hscales : scaleWords.map (·.1) ⊆ pack.quantityStrings :=
    fun _ hp => LanguagePack.mem_quantityStrings.mpr (Or.inr (Or.inl hp))
  have hdecimals : pack.words .decimalWords ⊆ pack.quantityStrings :=
    fun _ hp => LanguagePack.mem_quantityStrings.mpr (Or.inr (Or.inr (Or.inl hp)))
  have hpercents : pack.words .percentage ⊆ pack.quantityStrings :=
    fun _ hp => LanguagePack.mem_quantityStrings.mpr (Or.inr (Or.inr (Or.inr hp)))
  -- words for `of` may connect a phrase, so fractions are told by their denominators
  have hfractions : FractionPhrase.rewrite lexicon.numericFraction lexicon.spokenFraction
      (join [' '] (phraseTokens verb a link b)) = join [' '] (phraseTokens verb a link b) := by
    refine fractions_join hof
      (fun t ht => isToken_of_mem_phraseTokens hapart hverb hlink ha hb ht)
      (not_mem_phrase hapart hverb hlink ha hb (by decide) (by decide) (by decide)) ?_
    intro t ht hword
    rcases mem_phraseTokens hapart hverb hlink ha hb ht with hn | ⟨hmem, hsmall⟩
    · exact absurd rfl (hn.ne_word hword)
    · exact FractionPhrase.fractionDenominator?_eq_none hsmall (hapart.fraction t hmem)
  have hexposed : Nowhere ExposedPointAt none (join [' '] (phraseTokens verb a link b)) [] := by
    apply nowhere_join_of
    · intro b r h hspace
      rw [h.head] at hspace
      exact absurd hspace (by decide)
    · intro t ht b r
      rcases mem_phraseTokens hapart hverb hlink ha hb ht with hn | ⟨-, hsmall⟩
      · exact hn.nowhere_exposed
      · exact nowhere_of_not_mem (fun _ _ => ExposedPointAt.head)
          fun hmem => absurd (hsmall '.' hmem) (by decide)
  exact rewriteAll_idle hpack hof (isPlainSpoken_of_mem_phrase hapart hverb hlink ha hb)
    (hquantity hnumbers) (hquantity hscales) hfractions (hquantity hdecimals) hexposed
    (hquantity hpercents)
    (not_mem_phrase hapart hverb hlink ha hb (by decide) (by decide) (by decide))

/-! ## The patterns for phrases -/

variable (hpack : pack.IsOrdinary)

/-- The phrases of a kind that has another verb are not found. -/
theorem rewritePhrase_other {other : PhraseKind}
    (hother : ∀ e ∈ (pack.phrases other).verbs, e.toList ≠ verb.toList) (change : Match → List Char) :
    rewrite? ((OperatorWord.Patterns.ofPack pack).phrase other) change
      (join [' '] (phraseTokens verb a link b)) = join [' '] (phraseTokens verb a link b) := by
  have hno : Nowhere (FoundAt (pack.phrases other).verbs) none
      (join [' '] (phraseTokens verb a link b)) [] := by
    apply nowhere_phrase hapart hverb hlink ha hb
    intro e he
    have hmem := mem_spelling_verbs he
    obtain ⟨hspoken, hwords⟩ := hapart.single _ (List.mem_append_left _ hmem)
    refine ⟨hspoken, e.toList, by rw [hwords]; exact List.mem_cons_self, hother e he, fun h => ?_⟩
    exact hapart.link _ (mem_spelling_links hlink) (h ▸ hmem)
  exact rewrite?_eq_self (needsAt_operatorPhrase (Or.inl (needsAt_found _))) _ hno

omit hb hverb hlink hapart in
/-- An operand in front of a space or at the end of a text. -/
theorem prefers_pointedOperand {i : Nat} {before : Option Char} {r : List Char} (hr : IsTail r) :
    (group i OperatorWord.pointedOperand).Prefers before a r [(i, a)] := by
  have hnumeral : OperatorWord.pointedOperand.Prefers before a r [] :=
    prefers_of_first fun _ _ hs =>
      first_numeral (f := (· == '.')) rfl ha hs (hr.head (by decide)) (hr.head rfl)
  exact hnumeral.group i

omit hverb ha hb hlink in
/-- Words of one kind of phrase differ in their first words. -/
theorem areDistinct_single {phrases : List String}
    (h : ∀ p ∈ phrases, p.toList ∈ pack.phraseSpelling.tokens) : AreDistinct phrases := by
  have hfirst {p : String} (hp : p ∈ phrases) : firstWord p.toList = p.toList := by
    rw [firstWord, (hapart.single _ (h p hp)).2]
    rfl
  intro p hp q hq hsame
  rwa [hfirst hp, hfirst hq] at hsame

include hpack

/-- The pattern for its own kind of phrase reads all of it. -/
theorem rewritePhrase_own :
    rewrite? ((OperatorWord.Patterns.ofPack pack).phrase kind) (OperatorWord.rewritePhrase kind)
      (join [' '] (phraseTokens verb a link b)) = OperatorWord.phraseText kind a b := by
  have hverbs : ∀ p ∈ (pack.phrases kind).verbs, IsProper p.toList :=
    fun p hp => (hpack.template (Or.inl hp)).1
  have hlinks : ∀ p ∈ (pack.phrases kind).connectives, IsProper p.toList :=
    fun p hp => (hpack.template (Or.inr hp)).1
  have hdistinct : AreDistinct (pack.phrases kind).verbs :=
    areDistinct_single hapart fun p hp => List.mem_append_left _ (mem_spelling_verbs hp)
  have hdistinct' : AreDistinct (pack.phrases kind).connectives :=
    areDistinct_single hapart fun p hp => List.mem_append_right _ (mem_spelling_links hp)
  have hpercent : (inOrder [loose, PercentPhrase.sign pack]).NeedsAt
      (FoundAt ("%" :: pack.words .percentage)) :=
    needsAt_inOrder (p := PercentPhrase.sign pack) (by simp) (needsAt_found _)
  have htext : join [' '] (phraseTokens verb a link b) =
      verb.toList ++ ([' '] ++ (a ++ ([' '] ++ (link.toList ++ ([' '] ++ (b ++ [])))))) := by
    simp [phraseTokens, join]
  -- verb, operand, connective and operand are read one after the other with gaps between
  obtain ⟨p, hp, hprefers⟩ : ∃ p, (OperatorWord.Patterns.ofPack pack).phrase kind = some p ∧
      p.Prefers none (join [' '] (phraseTokens verb a link b)) [] [(2, b), (1, a)] := by
    refine ⟨_, by
      show OperatorWord.phrasePattern? _ _ = _
      rw [OperatorWord.phrasePattern?, pattern?_of_mem hverbs hverb, pattern?_of_mem hlinks hlink]
      rfl, ?_⟩
    rw [htext]
    exact Prefers.seq (prefers_pattern hverbs hdistinct hverb
        (fits_self (hverbs verb hverb) rfl head_space))
      (Prefers.seq (prefers_space (by rw [List.append_assoc]; exact ha.head_solid))
        (Prefers.seq (prefers_pointedOperand ha (Or.inr ⟨_, rfl⟩))
          (Prefers.seq (prefers_space (by rw [List.append_assoc]; exact (hlinks link hlink).head_solid))
            (Prefers.seq (prefers_pattern hlinks hdistinct' hlink
              (fits_self (hlinks link hlink) behind_space head_space))
              (Prefers.seq (prefers_space (by rw [List.append_assoc]; exact hb.head_solid))
                (Prefers.seq (prefers_pointedOperand hb (Or.inl rfl))
                  (hpercent.group 3).prefers_optional_nil))))))
  have hne : join [' '] (phraseTokens verb a link b) ≠ [] := by simp [phraseTokens, join]
  rw [hp]
  exact rewrite_of_prefers hne hprefers _

/-- The operators make of a phrase its operands with the sign of its kind. -/
theorem operators_phrase {lexicon : Lexicon} (hof : lexicon.IsOf pack)
    (hsilent : Silent (OperatorWord.phraseText kind a b)) :
    OperatorWord.rewrite lexicon.operators (join [' '] (phraseTokens verb a link b)) =
      OperatorWord.phraseText kind a b := by
  obtain ⟨earlier, later, hsplit⟩ := List.append_of_mem (mem_kinds kind)
  have hother : ∀ other ∈ earlier, ∀ e ∈ (pack.phrases other).verbs, e.toList ≠ verb.toList := by
    have hdisjoint := hapart.verb
    rw [LanguagePack.phraseSpelling, hsplit, List.map_append, List.pairwise_append] at hdisjoint
    intro other hmem e he
    exact hdisjoint.2.2 _ (List.mem_map_of_mem hmem) _ List.mem_cons_self _
      (List.mem_map_of_mem he) _ (List.mem_map_of_mem hverb)
  have hearlier : earlier.foldl (fun text kind =>
      rewrite? ((OperatorWord.Patterns.ofPack pack).phrase kind)
        (OperatorWord.rewritePhrase kind) text) (join [' '] (phraseTokens verb a link b)) =
      join [' '] (phraseTokens verb a link b) := by
    refine List.foldlRecOn (motive := (· = _)) earlier _ rfl fun text htext other hmem => ?_
    rw [htext]
    exact rewritePhrase_other hapart hverb hlink ha hb (hother other hmem) _
  have hlater : later.foldl (fun text kind =>
      rewrite? ((OperatorWord.Patterns.ofPack pack).phrase kind)
        (OperatorWord.rewritePhrase kind) text) (OperatorWord.phraseText kind a b) =
      OperatorWord.phraseText kind a b :=
    List.foldl_fixed' (operatorPhrase_of_silent hpack hsilent) _
  rw [hof.operators, OperatorWord.rewrite, hsplit, List.foldl_append, hearlier, List.foldl_cons,
    rewritePhrase_own hapart hverb hlink ha hb hpack, hlater]
  exact List.foldl_fixed' (replaceWords_of_silent hpack hsilent) _

/-- What the stages make of a phrase. -/
theorem rewriteAll_phrase {lexicon : Lexicon} (hof : lexicon.IsOf pack) :
    Stage.rewriteAll Stage.all lexicon (join [' '] (phraseTokens verb a link b)) =
      OperatorWord.phraseText kind a b := by
  obtain ⟨x, sign, y, htext, hx, hsign, hy⟩ := phraseText_eq_join kind ha hb
  have hsymbols : ∀ t ∈ [x, [sign], y], Expression.IsSymbol t := by
    have hsigns : ['+', '-', '*', '/'] ⊆ ['+', '-', '*', '/', '^', '(', ')'] := by decide
    simp only [List.forall_mem_cons, List.not_mem_nil, false_imp_iff, implies_true, and_true]
    exact ⟨.numeral hx, .sign (hsigns hsign), .numeral hy⟩
  have hplus : [x, [sign], y].IsChain fun s t => ¬ (s = ['+'] ∧ t = ['+']) := by
    have hnumeral {n : List Char} (hn : IsNumeral n) : n ≠ ['+'] := by
      rintro rfl
      obtain ⟨d, ds, hcons, hd⟩ := hn.cons
      rw [← (List.cons.inj hcons).1] at hd
      exact absurd hd (by decide)
    simp [hnumeral hx, hnumeral hy]
  have hsilent : Silent (OperatorWord.phraseText kind a b) :=
    htext ▸ Expression.silent_row hsymbols
  have hrow := Expression.rewrite_row hsymbols hplus hpack
  have hall : Stage.all =
      [.numberWords, .scaleNumbers, .fractions, .numeralMarks, .percentages] ++
        [.operators, .cleanup] := rfl
  rw [hall, Stage.rewriteAll_append, rewriteAll_spokenPhrase hapart hverb hlink ha hb hpack hof]
  show Expression.rewrite lexicon.percent (OperatorWord.rewrite lexicon.operators _) = _
  rw [operators_phrase hapart hverb hlink ha hb hpack hof hsilent, hof.percent, htext, hrow]

end Phrases

/-- What is made of a phrase of some kind. -/
theorem SpokenPhrase.exists_kind {pack : LanguagePack} {transcript expression : List Char}
    (h : SpokenPhrase pack transcript expression) : ∃ kind verb a link b,
      verb ∈ (pack.phrases kind).verbs ∧ link ∈ (pack.phrases kind).connectives ∧ IsNumeral a ∧
        IsNumeral b ∧ transcript = join [' '] (phraseTokens verb a link b) ∧
        expression = OperatorWord.phraseText kind a b := by
  cases h with
  | add hverb hlink ha hb =>
    exact ⟨.add, _, _, _, _, hverb, hlink, ha, hb, join_phraseTokens.symm, rfl⟩
  | subtract hverb hlink ha hb =>
    exact ⟨.subtract, _, _, _, _, hverb, hlink, ha, hb, join_phraseTokens.symm, rfl⟩
  | multiply hverb hlink ha hb =>
    exact ⟨.multiply, _, _, _, _, hverb, hlink, ha, hb, join_phraseTokens.symm, rfl⟩
  | divide hverb hlink ha hb =>
    exact ⟨.divide, _, _, _, _, hverb, hlink, ha, hb, join_phraseTokens.symm, rfl⟩

/-- A phrase around two operands comes to the operands with the sign of its operation between, in
every built-in language. -/
theorem normalize_spokenPhrase {pack : LanguagePack} (hpack : pack ∈ builtinPacks)
    {transcript expression : List Char} (hphrase : SpokenPhrase pack transcript expression)
    (hlength : transcript.length ≤ 1000) :
    (Lexicon.ofPack pack).map (·.normalize transcript) = .ok expression := by
  have hordinary := isOrdinary_of_mem hpack
  have hapart := phrasesApart_of_mem hpack
  obtain ⟨lexicon, hlexicon, hof⟩ := Lexicon.exists_of_mem hpack
  obtain ⟨kind, verb, a, link, b, hverb, hlink, ha, hb, rfl, rfl⟩ := hphrase.exists_kind
  have hprepare : Transcript.prepare (join [' '] (phraseTokens verb a link b)) =
      join [' '] (phraseTokens verb a link b) :=
    Transcript.prepare_of_plainSpoken fun c hc =>
      Or.inl (isPlainSpoken_of_mem_phrase hapart hverb hlink ha hb c hc)
  rw [hlexicon]
  show Except.ok (lexicon.normalize _) = _
  rw [lexicon.normalize_of_short hlength, hprepare,
    rewriteAll_phrase hapart hverb hlink ha hb hordinary hof]

/-- `subtract 2.5 from 10` -/
theorem normalize_spokenPhrase_english :
    english ∈ builtinPacks ∧
      SpokenPhrase english "subtract 2.5 from 10".toList "10 - 2.5".toList ∧
      "subtract 2.5 from 10".toList.length ≤ 1000 ∧
      (Lexicon.ofPack english).map (·.normalize "subtract 2.5 from 10".toList) =
        .ok "10 - 2.5".toList := by
  have hdigits {ds : List Char} (hne : ds ≠ []) (h : ∀ c ∈ ds, isDecimalDigit c = true) :
      IsDigits ds := ⟨hne, h⟩
  have hten : IsNumeral "10".toList := .whole (hdigits (by decide) (by decide))
  have htwo : IsDigits ['2'] := hdigits (by decide) (by decide)
  have hhalf : IsNumeral "2.5".toList := .decimal htwo (hdigits (by decide) (by decide))
  have hverb : "subtract" ∈ (english.phrases .subtract).verbs := by
    simp [english, englishPhrases]
  have hlink : "from" ∈ (english.phrases .subtract).connectives := by
    simp [english, englishPhrases]
  have hphrase : SpokenPhrase english "subtract 2.5 from 10".toList "10 - 2.5".toList :=
    .subtract hverb hlink hhalf hten
  exact ⟨List.mem_cons_self, hphrase, by decide,
    normalize_spokenPhrase List.mem_cons_self hphrase (by decide)⟩

end CalcSpeech
