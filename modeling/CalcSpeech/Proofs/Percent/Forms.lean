import CalcSpeech.Proofs.Percent.Reading

/-!
# The five forms of a percentage

A spoken percentage in any of its five forms comes to the formula that the form stands for, in
every built-in language and with any of its words (`normalize_percentage`).
-/

namespace CalcSpeech

open Unicode Pattern Vocabulary Text PercentPhrase

/-- A percentage as it is spoken with the words of a pack, and the formula for it. -/
inductive SpokenPercentage (pack : LanguagePack) : List Char → List Char → Prop
  /-- add X% to Y -/
  | added {verb link x y mark} : verb ∈ (pack.phrases .add).verbs →
      link ∈ (pack.phrases .add).connectives → IsNumeral x → IsNumeral y → PercentMark pack mark →
      SpokenPercentage pack
        (verb.toList ++ ' ' :: (x ++ (mark ++ ' ' :: (link.toList ++ ' ' :: y))))
        ("(".toList ++ y ++ " * (1 + ".toList ++ x ++ " / 100))".toList)
  /-- subtract X% from Y -/
  | subtracted {verb link x y mark} : verb ∈ (pack.phrases .subtract).verbs →
      link ∈ (pack.phrases .subtract).connectives → IsNumeral x → IsNumeral y →
      PercentMark pack mark →
      SpokenPercentage pack
        (verb.toList ++ ' ' :: (x ++ (mark ++ ' ' :: (link.toList ++ ' ' :: y))))
        ("(".toList ++ y ++ " * (1 - ".toList ++ x ++ " / 100))".toList)
  /-- X% of Y -/
  | share {word x y mark} : word ∈ pack.words .ofWords → IsNumeral x → IsNumeral y →
      PercentMark pack mark →
      SpokenPercentage pack (x ++ (mark ++ ' ' :: (word.toList ++ ' ' :: y)))
        ("(".toList ++ y ++ " * ".toList ++ x ++ " / 100)".toList)
  /-- X + Y% -/
  | plus {word x y mark} : word ∈ pack.words .addition → IsNumeral x → IsNumeral y →
      PercentMark pack mark →
      SpokenPercentage pack (x ++ ' ' :: (word.toList ++ ' ' :: (y ++ mark)))
        ("(".toList ++ x ++ " * (1 + ".toList ++ y ++ " / 100))".toList)
  /-- X - Y% -/
  | minus {word x y mark} : word ∈ pack.words .subtraction → IsNumeral x → IsNumeral y →
      PercentMark pack mark →
      SpokenPercentage pack (x ++ ' ' :: (word.toList ++ ' ' :: (y ++ mark)))
        ("(".toList ++ x ++ " * (1 - ".toList ++ y ++ " / 100))".toList)

section Rows

variable {pack : LanguagePack} (hpack : pack.IsOrdinary) (hapart : pack.spelling.IsApart)
  {lexicon : Lexicon} (hof : lexicon.IsOf pack)

include hpack hapart hof in
/-- A row of tokens that the percentages turn into a formula comes to that formula. -/
theorem normalize_of_percent {tokens : List (List Char)} {formula : List Char}
    (htokens : ∀ t ∈ tokens, PhraseToken pack t)
    (hnumbers : NumberWord.rewrite lexicon.numberWords (join [' '] tokens) = join [' '] tokens)
    (hpercent : PercentPhrase.rewrite (Patterns.ofPack pack) (join [' '] tokens) = formula)
    (hformula : IsFormula formula) (hlength : (join [' '] tokens).length ≤ 1000) :
    lexicon.normalize (join [' '] tokens) = formula := by
  have hrest := rewriteAll_formula hpack hof hformula
  simp only [Stage.rewriteAll, List.foldl_cons, List.foldl_nil, Stage.rewrite] at hrest
  rw [lexicon.normalize_of_short hlength, prepare_join_tokens hapart htokens]
  simp only [Stage.rewriteAll, Stage.all, List.foldl_cons, List.foldl_nil, Stage.rewrite]
  rw [hnumbers, hof.scaledSum, scaleNumbers_join_tokens hapart htokens,
    fractions_join_tokens hapart htokens hof, hof.pack_eq,
    numeralMarks_join_tokens hapart htokens hpack hof, hof.percent, hpercent]
  rw [hof.percent] at hrest
  exact hrest

/-- A text in which vocabularies begin only with the words in front of a percentage, behind it, or
of the percentage itself. -/
structure IsRow (pack : LanguagePack) (front back : List (List Char)) (text : List Char) :
    Prop where
  nowhere_begins : ∀ phrases : List String, (∀ p ∈ phrases, IsSpoken p.toList) →
    (∀ p ∈ phrases, firstWord p.toList ∉ front ++ back ++ pack.spelling.percentWords) →
    Nowhere (Begins phrases) none text []
  no_plus : '+' ∉ text

variable {front back : List (List Char)} (hfront : ∀ t ∈ front, IsCarrier pack t)
  (hback : ∀ t ∈ back, IsCarrier pack t)

include hapart hfront hback in
theorem isRow_join {marked : List (List Char)} (hmarked : ∀ t ∈ marked, PhraseToken pack t)
    (hpercents : ∀ t ∈ marked, IsWord t → t ∈ pack.spelling.percentWords) :
    (∀ t ∈ front ++ (marked ++ back), PhraseToken pack t) ∧
      IsRow pack front back (join [' '] (front ++ (marked ++ back))) := by
  have htokens : ∀ t ∈ front ++ (marked ++ back), PhraseToken pack t := by
    intro t ht
    simp only [List.mem_append] at ht
    rcases ht with ht | ht | ht
    · exact (hfront t ht).phraseToken
    · exact hmarked t ht
    · exact (hback t ht).phraseToken
  refine ⟨htokens, ?_, not_mem_join_tokens hapart htokens (by decide) (by decide)
    (by decide)⟩
  intro phrases hspoken hne
  refine nowhere_begins_join hapart htokens hspoken ?_ rfl
  intro p hp hmem
  have hother := hne p hp
  simp only [List.mem_append, not_or] at hmem hother
  rcases hmem with hmem | hmem | hmem
  · exact hother.1.1 hmem
  · exact hother.2 (hpercents _ hmem (hspoken p hp).isWord)
  · exact hother.1.2 hmem

include hpack hapart hof hfront hback in
/-- A percentage with its carriers around it that the percentages turn into a formula comes to that
formula. -/
theorem normalize_of_row {n mark text formula : List Char} (hn : IsNumeral n)
    (hmark : PercentMark pack mark)
    (htext : ∀ marked, marked ≠ [] → join [' '] marked = n ++ mark →
      join [' '] (front ++ (marked ++ back)) = text)
    (hpercent : IsRow pack front back text →
      PercentPhrase.rewrite (Patterns.ofPack pack) text = formula)
    (hformula : IsFormula formula) (hlength : text.length ≤ 1000) :
    lexicon.normalize text = formula := by
  obtain ⟨marked, hmarked⟩ := exists_row hpack hapart hof hn hmark
  obtain ⟨htokens, hrow⟩ := isRow_join hapart hfront hback hmarked.token hmarked.word
  have hjoined := htext marked hmarked.ne_nil hmarked.join_eq
  subst hjoined
  exact normalize_of_percent hpack hapart hof htokens (hmarked.kept front back hfront hback)
    (hpercent hrow) hformula hlength

end Rows

/-! ## Phrases that are passed over -/

section Silent

variable {pack : LanguagePack} (hpack : pack.IsOrdinary) {text : List Char}
  (formula : List Char → List Char → List Char)

include hpack

/-- Where no verb begins, or no connective, there is no phrase with a verb. -/
theorem verbPhrase_eq_self (kind : PhraseKind)
    (h : Nowhere (Begins (pack.phrases kind).verbs) none text [] ∨
      Nowhere (Begins (pack.phrases kind).connectives) none text []) :
    rewriteOperands (verbPhrase? (sign pack) (pack.phrases kind)) formula text = text := by
  rcases h with h | h
  · refine rewrite?_eq_self (needsAt_verbPhrase (Or.inl ?_)) _ h
    exact needsAt_pattern fun p hp => (hpack.template (Or.inl hp)).1
  · refine rewrite?_eq_self (needsAt_verbPhrase (Or.inr ?_)) _ h
    exact needsAt_pattern fun p hp => (hpack.template (Or.inr hp)).1

/-- Where no word for `of` begins there is no percentage of a quantity. -/
theorem quantityPhrase_eq_self (h : Nowhere (Begins (pack.words .ofWords)) none text []) :
    rewriteOperands (Patterns.ofPack pack).ofQuantity formula text = text := by
  have hwords : ∀ p, pattern? (pack.words .ofWords) = some p →
      p.NeedsAt (Begins (pack.words .ofWords)) := by
    intro p hp
    rw [eq_pattern_of_pattern? hp]
    exact needsAt_pattern fun q hq => (hpack.words hq).1
  have hquantity : ∀ q, (Patterns.ofPack pack).ofQuantity = some q →
      q.NeedsAt (Begins (pack.words .ofWords)) :=
    needsAt_map hwords fun p hp => needsAt_inOrder (by simp) hp
  exact rewrite?_eq_self hquantity _ h

omit hpack in
/-- Where no word or sign for the operation begins there is no quantity with a percentage. -/
theorem signPhrase_eq_self {phrases : List String} (hproper : ∀ p ∈ phrases, IsProper p.toList)
    (h : Nowhere (Begins phrases) none text []) :
    rewriteOperands (some (signPhrase (sign pack) (pattern phrases))) formula text = text := by
  have hneeds : (signPhrase (sign pack) (pattern phrases)).NeedsAt (Begins phrases) :=
    needsAt_inOrder (by simp) (needsAt_pattern hproper)
  exact hneeds.rewriteAfter _ h

end Silent

/-! ## The forms one by one -/

section Forms

variable {pack : LanguagePack} (hpack : pack.IsOrdinary) (hapart : pack.spelling.IsApart)

include hapart

/-- A verb, a connective and a word for `of` are one word each. -/
theorem firstWord_of_joint {e : List Char} (he : e ∈ pack.spelling.joints) :
    firstWord e = e ∧ IsCarrier pack e := by
  have hwords := hapart.single e he
  refine ⟨by rw [firstWord, hwords]; rfl, Or.inr ?_⟩
  exact List.mem_flatMap.mpr ⟨e, List.mem_append_left _ he, by rw [hwords]; simp⟩

omit hapart in
/-- The words for an operation stand around percentages. -/
theorem isCarrier_of_sign {e : List Char} (he : e ∈ pack.spelling.signs) :
    ∀ t ∈ words e, IsCarrier pack t := by
  intro t ht
  exact Or.inr (List.mem_flatMap.mpr ⟨e, List.mem_append_right _ he, ht⟩)

omit hapart in
/-- A numeral is not the first word of a spoken phrase. -/
theorem IsNumeral.ne_firstWord {n e : List Char} (hn : IsNumeral n) (he : IsSpoken e) :
    firstWord e ≠ n :=
  hn.ne_word he.isWord

/-- Phrases of one word that is neither a carrier nor a word of the percentage begin nowhere. -/
theorem IsRow.nowhere_joints {front back : List (List Char)} {text : List Char}
    (h : IsRow pack front back text) {phrases : List String}
    (hjoints : ∀ p ∈ phrases, p.toList ∈ pack.spelling.joints)
    (hne : ∀ p ∈ phrases, p.toList ∉ front ++ back ++ pack.spelling.percentWords) :
    Nowhere (Begins phrases) none text [] := by
  apply h.nowhere_begins phrases
  · exact fun p hp => hapart.spoken_joint (hjoints p hp)
  · intro p hp
    rw [(firstWord_of_joint hapart (hjoints p hp)).1]
    exact hne p hp

/-- A verb or connective is no numeral. -/
theorem ne_numeral_of_joint {n e : List Char} (hn : IsNumeral n) (he : e ∈ pack.spelling.joints) :
    e ≠ n := by
  have hne := hn.ne_firstWord (hapart.spoken_joint he)
  rwa [(firstWord_of_joint hapart he).1] at hne

omit hapart in
/-- The verbs, connectives and words for `of` of a pack in its spelling. -/
theorem mem_joints {p : String} (h : p ∈ (pack.phrases .add).verbs ∨
    p ∈ (pack.phrases .add).connectives ∨ p ∈ (pack.phrases .subtract).verbs ∨
    p ∈ (pack.phrases .subtract).connectives ∨ p ∈ pack.words .ofWords) :
    p.toList ∈ pack.spelling.joints := by
  simp only [Spelling.joints, LanguagePack.spelling, List.mem_append]
  rcases h with h | h | h | h | h
  · exact Or.inl (Or.inl (Or.inl (Or.inl (List.mem_map_of_mem h))))
  · exact Or.inl (Or.inl (Or.inl (Or.inr (List.mem_map_of_mem h))))
  · exact Or.inl (Or.inl (Or.inr (List.mem_map_of_mem h)))
  · exact Or.inl (Or.inr (List.mem_map_of_mem h))
  · exact Or.inr (List.mem_map_of_mem h)

omit hapart in
/-- The sign for an operation and the words for it. -/
theorem isProper_sign (hpack : pack.IsOrdinary) (list : WordList) {c : Char}
    (hc : c ∈ Vocabulary.signs) :
    ∀ p ∈ String.ofList [c] :: pack.words list, IsProper p.toList := by
  intro p hp
  rcases List.mem_cons.mp hp with rfl | hp
  · exact Or.inr ⟨c, hc, String.toList_ofList⟩
  · exact (hpack.words hp).1

/-- In a difference no sum begins. -/
theorem IsRow.nowhere_additions {x o : List Char} {text : List Char}
    (hx : IsNumeral x) (ho : o ∈ pack.spelling.subtractions)
    (h : IsRow pack (x :: words o) [] text) :
    Nowhere (Begins ("+" :: pack.words .addition)) none text [] := by
  have hadditions : ∀ p ∈ pack.words .addition, p.toList ∈ pack.spelling.additions :=
    fun p hp => List.mem_map_of_mem hp
  have hspoken : ∀ p ∈ pack.words .addition, IsSpoken p.toList := fun p hp =>
    hapart.spoken_sign (List.mem_append_left _ (hadditions p hp))
  have hwords : Nowhere (Begins (pack.words .addition)) none text [] := by
    apply h.nowhere_begins _ hspoken
    intro p hp
    have hother := hapart.addition_subtraction _ (hadditions p hp)
    have hnumeral := hx.ne_firstWord (hspoken p hp)
    simp only [List.append_nil, List.mem_append, List.mem_cons, not_or] at hother ⊢
    exact ⟨⟨hnumeral, fun hmem => hother.1 (List.mem_flatMap.mpr ⟨o, ho, hmem⟩)⟩, hother.2⟩
  have hplus : Nowhere (fun _ rest => rest.head? = some '+') none text [] :=
    nowhere_of_not_mem (fun _ _ hhead => hhead) h.no_plus
  refine (hwords.or hplus).mono ?_
  intro b r hbegins
  obtain ⟨p, hp, hbegin⟩ := hbegins
  rcases List.mem_cons.mp hp with rfl | hp
  · rcases hbegin with ⟨hplus, -⟩ | ⟨c, -, hsign, hhead⟩
    · exact absurd rfl (hplus.ne_sign (c := '+') (by decide))
    · obtain rfl : c = '+' := by simpa using hsign.symm
      exact Or.inr hhead
  · exact Or.inl ⟨p, hp, hbegin⟩

variable {lexicon : Lexicon} (hof : lexicon.IsOf pack)
  {x y mark : List Char} (hx : IsNumeral x) (hy : IsNumeral y) (hmark : PercentMark pack mark)

include hpack hof hx hy hmark

/-- A phrase with a verb that the percentages turn into a formula. -/
theorem normalize_verbPhrase {v l formula : List Char} (hv : v ∈ pack.spelling.joints)
    (hl : l ∈ pack.spelling.joints)
    (hpercent : IsRow pack [v] [l, y] (v ++ ' ' :: (x ++ (mark ++ ' ' :: (l ++ ' ' :: y)))) →
      PercentPhrase.rewrite (Patterns.ofPack pack)
        (v ++ ' ' :: (x ++ (mark ++ ' ' :: (l ++ ' ' :: y)))) = formula)
    (hformula : IsFormula formula)
    (hlength : (v ++ ' ' :: (x ++ (mark ++ ' ' :: (l ++ ' ' :: y)))).length ≤ 1000) :
    lexicon.normalize (v ++ ' ' :: (x ++ (mark ++ ' ' :: (l ++ ' ' :: y)))) = formula := by
  have hfront : ∀ t ∈ [v], IsCarrier pack t :=
    List.forall_mem_singleton.mpr (firstWord_of_joint hapart hv).2
  have hback : ∀ t ∈ [l, y], IsCarrier pack t :=
    List.forall_mem_cons.mpr ⟨(firstWord_of_joint hapart hl).2,
      List.forall_mem_singleton.mpr (Or.inl hy)⟩
  refine normalize_of_row hpack hapart hof hfront hback hx hmark ?_ hpercent hformula hlength
  intro marked hne hjoin
  rw [join_append (by simp) (by simp), join_append hne (by simp), hjoin]
  simp [join]

theorem normalize_added {v l : String} (hv : v ∈ (pack.phrases .add).verbs)
    (hl : l ∈ (pack.phrases .add).connectives)
    (hlength : (v.toList ++ ' ' :: (x ++ (mark ++ ' ' :: (l.toList ++ ' ' :: y)))).length ≤ 1000) :
    lexicon.normalize (v.toList ++ ' ' :: (x ++ (mark ++ ' ' :: (l.toList ++ ' ' :: y)))) =
      changedBy '+' y x := by
  have hformula : IsFormula (changedBy '+' y x) := .changed (Or.inl rfl) hy hx
  refine normalize_verbPhrase hpack hapart hof hx hy hmark (mem_joints (Or.inl hv))
    (mem_joints (Or.inr (Or.inl hl))) ?_ hformula hlength
  intro _
  have hadded := verbPhrase_eq_formula hpack hapart hx hy
    (fun rate base => changedBy '+' base rate) hmark (areDistinct_of_spelling hapart.distinct.1)
    (areDistinct_of_spelling hapart.distinct.2.1) hv hl
  show rewritePlusMinus _ (rewriteOperands _ _ (rewriteOperands
    (verbPhrase? _ (pack.phrases .subtract)) _ (rewriteOperands (verbPhrase? _ _) _ _))) = _
  rw [hadded, verbPhrase_of_silent hpack hformula.silent,
    quantityPhrase_of_silent hpack hformula.silent, hformula.rewritePlusMinus_eq hpack]

theorem normalize_subtracted {v l : String} (hv : v ∈ (pack.phrases .subtract).verbs)
    (hl : l ∈ (pack.phrases .subtract).connectives)
    (hlength : (v.toList ++ ' ' :: (x ++ (mark ++ ' ' :: (l.toList ++ ' ' :: y)))).length ≤ 1000) :
    lexicon.normalize (v.toList ++ ' ' :: (x ++ (mark ++ ' ' :: (l.toList ++ ' ' :: y)))) =
      changedBy '-' y x := by
  have hformula : IsFormula (changedBy '-' y x) := .changed (Or.inr rfl) hy hx
  refine normalize_verbPhrase hpack hapart hof hx hy hmark
    (mem_joints (Or.inr (Or.inr (Or.inl hv)))) (mem_joints (Or.inr (Or.inr (Or.inr (Or.inl hl)))))
    ?_ hformula hlength
  intro hrow
  have hverbs : Nowhere (Begins (pack.phrases .add).verbs) none
      (v.toList ++ ' ' :: (x ++ (mark ++ ' ' :: (l.toList ++ ' ' :: y)))) [] := by
    refine hrow.nowhere_joints hapart (fun p hp => mem_joints (Or.inl hp)) fun p hp => ?_
    have hverb : p.toList ∈ pack.spelling.addVerbs := List.mem_map_of_mem hp
    have hother := hapart.add_subtract _ hverb
    have hwords := hapart.verb_of _ (List.mem_append_left _ hverb)
    have hnumeral := ne_numeral_of_joint hapart hy (mem_joints (Or.inl hp))
    have hv' : v.toList ∈ pack.spelling.subtractVerbs := List.mem_map_of_mem hv
    have hl' : l.toList ∈ pack.spelling.subtractLinks := List.mem_map_of_mem hl
    simp only [List.mem_append, List.mem_cons, List.not_mem_nil, or_false, not_or]
      at hother hwords ⊢
    exact ⟨⟨fun h => hother.1 (h ▸ hv'), fun h => hother.2 (h ▸ hl'), hnumeral⟩, hwords.1⟩
  have hadded := verbPhrase_eq_self hpack (fun rate base => changedBy '+' base rate) .add
    (Or.inl hverbs)
  have hsubtracted := verbPhrase_eq_formula hpack hapart hx hy
    (fun rate base => changedBy '-' base rate) hmark
    (areDistinct_of_spelling hapart.distinct.2.2.1)
    (areDistinct_of_spelling hapart.distinct.2.2.2.1) hv hl
  show rewritePlusMinus _ (rewriteOperands _ _ (rewriteOperands
    (verbPhrase? _ (pack.phrases .subtract)) _ (rewriteOperands (verbPhrase? _ _) _ _))) = _
  rw [hadded, hsubtracted, quantityPhrase_of_silent hpack hformula.silent,
    hformula.rewritePlusMinus_eq hpack]

/-- No phrase with a verb is read where a percentage of a quantity stands. -/
theorem normalize_share {o : String} (ho : o ∈ pack.words .ofWords)
    (hlength : (x ++ (mark ++ ' ' :: (o.toList ++ ' ' :: y))).length ≤ 1000) :
    lexicon.normalize (x ++ (mark ++ ' ' :: (o.toList ++ ' ' :: y))) = shareOf y x := by
  have hformula : IsFormula (shareOf y x) := .share hy hx
  have hjoint : o.toList ∈ pack.spelling.joints :=
    mem_joints (Or.inr (Or.inr (Or.inr (Or.inr ho))))
  have hback : ∀ t ∈ [o.toList, y], IsCarrier pack t :=
    List.forall_mem_cons.mpr ⟨(firstWord_of_joint hapart hjoint).2,
      List.forall_mem_singleton.mpr (Or.inl hy)⟩
  have hfront : ∀ t ∈ ([] : List (List Char)), IsCarrier pack t := by simp
  refine normalize_of_row hpack hapart hof hfront hback hx hmark ?_ ?_ hformula hlength
  · intro marked hne hjoin
    rw [List.nil_append, join_append hne (by simp), hjoin]
    simp [join]
  · intro hrow
    -- the carriers of the row are one word for `of` and one numeral, and no verb is either
    have hverbs {kind : PhraseKind} (h : ∀ p ∈ (pack.phrases kind).verbs,
        p.toList ∈ pack.spelling.addVerbs ++ pack.spelling.subtractVerbs ∧
          p.toList ∈ pack.spelling.joints) :
        Nowhere (Begins (pack.phrases kind).verbs) none
          (x ++ (mark ++ ' ' :: (o.toList ++ ' ' :: y))) [] := by
      refine hrow.nowhere_joints hapart (fun p hp => (h p hp).2) fun p hp => ?_
      have hwords := hapart.verb_of _ (h p hp).1
      have hnumeral := ne_numeral_of_joint hapart hy (h p hp).2
      have ho' : o.toList ∈ pack.spelling.ofWords := List.mem_map_of_mem ho
      simp only [List.nil_append, List.mem_append, List.mem_cons, List.not_mem_nil, or_false,
        not_or] at hwords ⊢
      exact ⟨⟨fun h => hwords.2 (h ▸ ho'), hnumeral⟩, hwords.1⟩
    have hadded := verbPhrase_eq_self hpack (fun rate base => changedBy '+' base rate) .add
      (Or.inl (hverbs fun p hp =>
        ⟨List.mem_append_left _ (List.mem_map_of_mem hp), mem_joints (Or.inl hp)⟩))
    have hsubtracted := verbPhrase_eq_self hpack (fun rate base => changedBy '-' base rate)
      .subtract (Or.inl (hverbs fun p hp => ⟨List.mem_append_right _ (List.mem_map_of_mem hp),
        mem_joints (Or.inr (Or.inr (Or.inl hp)))⟩))
    have hquantity := quantityPhrase_eq_formula hpack hapart hx hy
      (fun rate base => shareOf base rate) hmark ho
    show rewritePlusMinus _ (rewriteOperands _ _ (rewriteOperands
      (verbPhrase? _ (pack.phrases .subtract)) _ (rewriteOperands (verbPhrase? _ _) _ _))) = _
    rw [hadded, hsubtracted, hquantity, hformula.rewritePlusMinus_eq hpack]

omit hx hy hmark hof in
/-- Where an operation is spoken no phrase with a verb is read, and no percentage of a quantity. -/
theorem rewrite_sign {e text : List Char} (hx : IsNumeral x) (he : e ∈ pack.spelling.signs)
    (hrow : IsRow pack (x :: words e) [] text) :
    PercentPhrase.rewrite (Patterns.ofPack pack) text =
      rewritePlusMinus (Patterns.ofPack pack) text := by
  -- a joint is passed over unless it is one of the words of the operation
  have hpassed {phrases : List String}
      (hjoints : ∀ p ∈ phrases, p.toList ∈ pack.spelling.joints)
      (hne : ∀ p ∈ phrases, p.toList ∉ words e ++ pack.spelling.percentWords) :
      Nowhere (Begins phrases) none text [] := by
    refine hrow.nowhere_joints hapart hjoints fun p hp => ?_
    have hnumeral := ne_numeral_of_joint hapart hx (hjoints p hp)
    have hother := hne p hp
    simp only [List.append_nil, List.mem_append, List.mem_cons, not_or] at hother ⊢
    exact ⟨⟨hnumeral, hother.1⟩, hother.2⟩
  have hverb {p : List Char} (hp : p ∈ pack.spelling.addVerbs ++ pack.spelling.subtractVerbs)
      (hwords : p ∉ words e) : p ∉ words e ++ pack.spelling.percentWords := by
    have hother := hapart.verb_of p hp
    simp only [List.mem_append, not_or] at hother ⊢
    exact ⟨hwords, hother.1⟩
  have hadded := verbPhrase_eq_self hpack (fun rate base => changedBy '+' base rate) .add
    ((hapart.add_sign e he).imp
      (fun h => hpassed (fun p hp => mem_joints (Or.inl hp)) fun p hp =>
        hverb (List.mem_append_left _ (List.mem_map_of_mem hp)) (h _ (List.mem_map_of_mem hp)))
      (fun h => hpassed (fun p hp => mem_joints (Or.inr (Or.inl hp))) fun p hp =>
        h _ (List.mem_map_of_mem hp)))
  have hsubtracted := verbPhrase_eq_self hpack (fun rate base => changedBy '-' base rate) .subtract
    ((hapart.subtract_sign e he).imp
      (fun h => hpassed (fun p hp => mem_joints (Or.inr (Or.inr (Or.inl hp)))) fun p hp =>
        hverb (List.mem_append_right _ (List.mem_map_of_mem hp)) (h _ (List.mem_map_of_mem hp)))
      (fun h => hpassed (fun p hp => mem_joints (Or.inr (Or.inr (Or.inr (Or.inl hp)))))
        fun p hp => h _ (List.mem_map_of_mem hp)))
  have hquantity := quantityPhrase_eq_self hpack (fun rate base => shareOf base rate)
    (hpassed (fun p hp => mem_joints (Or.inr (Or.inr (Or.inr (Or.inr hp))))) fun p hp => by
      have hother := hapart.of_sign _ (List.mem_map_of_mem hp)
      simp only [List.mem_append, not_or] at hother ⊢
      exact ⟨fun h => hother.1 (List.mem_flatMap.mpr ⟨e, he, h⟩), hother.2⟩)
  show rewritePlusMinus _ (rewriteOperands _ _ (rewriteOperands
    (verbPhrase? _ (pack.phrases .subtract)) _ (rewriteOperands (verbPhrase? _ _) _ _))) = _
  rw [hadded, hsubtracted, hquantity]

/-- A quantity plus or minus a percentage, with a word for the operation. -/
theorem normalize_signPhrase {o formula : List Char} (ho : o ∈ pack.spelling.signs)
    (hpercent : IsRow pack (x :: words o) [] (x ++ ' ' :: (o ++ ' ' :: (y ++ mark))) →
      rewritePlusMinus (Patterns.ofPack pack) (x ++ ' ' :: (o ++ ' ' :: (y ++ mark))) = formula)
    (hformula : IsFormula formula)
    (hlength : (x ++ ' ' :: (o ++ ' ' :: (y ++ mark))).length ≤ 1000) :
    lexicon.normalize (x ++ ' ' :: (o ++ ' ' :: (y ++ mark))) = formula := by
  have hspoken := hapart.spoken_sign ho
  have hfront : ∀ t ∈ x :: words o, IsCarrier pack t :=
    List.forall_mem_cons.mpr ⟨Or.inl hx, isCarrier_of_sign ho⟩
  have hback : ∀ t ∈ ([] : List (List Char)), IsCarrier pack t := by simp
  refine normalize_of_row hpack hapart hof hfront hback hy hmark ?_ ?_ hformula hlength
  · intro marked hne hjoin
    have hfront : join [' '] (x :: words o) = x ++ [' '] ++ o := by
      have happend : join [' '] ([x] ++ words o) = _ := join_append (by simp) hspoken.1
      rw [hspoken.2.1] at happend
      simpa [join] using happend
    rw [List.append_nil, join_append (by simp) hne, hjoin, hfront]
    simp
  · intro hrow
    rw [rewrite_sign hpack hapart hx ho hrow]
    exact hpercent hrow

theorem normalize_plus {o : String} (ho : o ∈ pack.words .addition)
    (hlength : (x ++ ' ' :: (o.toList ++ ' ' :: (y ++ mark))).length ≤ 1000) :
    lexicon.normalize (x ++ ' ' :: (o.toList ++ ' ' :: (y ++ mark))) = changedBy '+' x y := by
  have hformula : IsFormula (changedBy '+' x y) := .changed (Or.inl rfl) hx hy
  have hsign : o.toList ∈ pack.spelling.signs :=
    List.mem_append_left _ (List.mem_map_of_mem ho)
  refine normalize_signPhrase hpack hapart hof hx hy hmark hsign ?_ hformula hlength
  intro _
  have hplus := signPhrase_eq_formula hpack hapart hx hy (changedBy '+') hmark
    (isProper_sign hpack .addition (c := '+') (by decide))
    (areDistinct_of_spelling hapart.distinct.2.2.2.2.2.2.1) (List.mem_cons_of_mem "+" ho)
  show rewriteOperands _ _ (rewriteOperands (Patterns.ofPack pack).plus _ _) = _
  rw [show (Patterns.ofPack pack).plus = some _ from rfl, hplus]
  exact signPhrase_of_silent hpack hformula.silent hformula.no_percent _ _

theorem normalize_minus {o : String} (ho : o ∈ pack.words .subtraction)
    (hlength : (x ++ ' ' :: (o.toList ++ ' ' :: (y ++ mark))).length ≤ 1000) :
    lexicon.normalize (x ++ ' ' :: (o.toList ++ ' ' :: (y ++ mark))) = changedBy '-' x y := by
  have hformula : IsFormula (changedBy '-' x y) := .changed (Or.inr rfl) hx hy
  have hsign : o.toList ∈ pack.spelling.signs :=
    List.mem_append_right _ (List.mem_map_of_mem ho)
  refine normalize_signPhrase hpack hapart hof hx hy hmark hsign ?_ hformula hlength
  intro hrow
  have hplus : rewriteOperands (Patterns.ofPack pack).plus (changedBy '+') _ = _ :=
    signPhrase_eq_self (changedBy '+') (isProper_sign hpack .addition (c := '+') (by decide))
      (hrow.nowhere_additions hapart hx (List.mem_map_of_mem ho))
  have hminus := signPhrase_eq_formula hpack hapart hx hy (changedBy '-') hmark
    (isProper_sign hpack .subtraction (c := '-') (by decide))
    (areDistinct_of_spelling hapart.distinct.2.2.2.2.2.2.2) (List.mem_cons_of_mem "-" ho)
  show rewriteOperands (Patterns.ofPack pack).minus _ (rewriteOperands _ _ _) = _
  rw [hplus]
  exact hminus

end Forms

/-- Every spoken percentage comes to the formula for it. -/
theorem normalize_percentage {pack : LanguagePack} (hpack : pack ∈ builtinPacks)
    {phrase formula : List Char} (h : SpokenPercentage pack phrase formula)
    (hlength : phrase.length ≤ 1000) :
    (Lexicon.ofPack pack).map (·.normalize phrase) = .ok formula := by
  have hordinary := isOrdinary_of_mem hpack
  have hapart := isApart_of_mem hpack
  obtain ⟨lexicon, hlexicon, hof⟩ := Lexicon.exists_of_mem hpack
  rw [hlexicon]
  show Except.ok (lexicon.normalize phrase) = _
  congr 1
  cases h with
  | added hv hl hx hy hmark => 
    rw [normalize_added hordinary hapart hof hx hy hmark hv hl hlength]
    simp [changedBy]
  | subtracted hv hl hx hy hmark =>
    rw [normalize_subtracted hordinary hapart hof hx hy hmark hv hl hlength]
    simp [changedBy]
  | share ho hx hy hmark =>
    rw [normalize_share hordinary hapart hof hx hy hmark ho hlength]
    simp [shareOf]
  | plus ho hx hy hmark =>
    rw [normalize_plus hordinary hapart hof hx hy hmark ho hlength]
    simp [changedBy]
  | minus ho hx hy hmark =>
    rw [normalize_minus hordinary hapart hof hx hy hmark ho hlength]
    simp [changedBy]

/-- `add 10 percent to 50` -/
theorem normalize_percentage_english :
    english ∈ builtinPacks ∧ "add 10 percent to 50".length ≤ 1000 ∧
      (Lexicon.ofPack english).map (·.normalize "add 10 percent to 50".toList) =
        .ok "(50 * (1 + 10 / 100))".toList := by
  have hnumeral {n : List Char} (hne : n ≠ []) (hdigits : ∀ c ∈ n, isDecimalDigit c = true) :
      IsNumeral n := .whole ⟨hne, hdigits⟩
  have hpack : english ∈ builtinPacks := List.mem_cons_self
  have hadd : "add" ∈ (english.phrases .add).verbs := by simp [english, englishPhrases]
  have hto : "to" ∈ (english.phrases .add).connectives := by simp [english, englishPhrases]
  have hpercent : "percent" ∈ english.words .percentage := by simp [english, englishWords]
  have hten : IsNumeral "10".toList := hnumeral (by decide) (by decide)
  have hfifty : IsNumeral "50".toList := hnumeral (by decide) (by decide)
  have h := SpokenPercentage.added hadd hto hten hfifty (.apart (List.mem_cons_of_mem _ hpercent))
  refine ⟨hpack, by decide, ?_⟩
  exact normalize_percentage hpack h (by decide)

end CalcSpeech
