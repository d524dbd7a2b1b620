import CalcSpeech.Proofs.Percent.FirstLook

/-!
# Percentages that are put together again

The operators put a sign for the word of an operation and one for that of a percentage, whatever
filler stands around them. Without the filler these are a sum or difference with a percent sign,
which the percentages read at second look (`rewriteAll_signed`). So a percentage comes to one
formula, with filler or without (`normalize_filled`).
-/

namespace CalcSpeech

open Unicode Pattern Vocabulary Text PercentPhrase

/-! ## A sign for a word -/

/-- The tokens of a sign with a space at either side. -/
def gapped (c : Char) : List (List Char) := [[], [c], []]

theorem mem_gapped {c d : Char} {t : List Char} (ht : t ∈ gapped c) (hd : d ∈ t) : d = c := by
  simp only [gapped, List.mem_cons, List.not_mem_nil, or_false] at ht
  rcases ht with rfl | rfl | rfl
  · exact absurd hd List.not_mem_nil
  · exact List.mem_singleton.mp hd
  · exact absurd hd List.not_mem_nil

theorem not_letter_gapped {c : Char} (hc : isLetter c = false) :
    ∀ t ∈ gapped c, ∀ d ∈ t, isLetter d = false :=
  fun _ ht _ hd => (mem_gapped ht hd).symm ▸ hc

section Signs

variable {pack : LanguagePack} {front back : List (List Char)}

/-- In a row with one of the words of a list its sign stands for it. -/
theorem replaceWords_spoken {list : WordList} {sign : String} {c : Char}
    (hlist : list ≠ .percentOf) (hsign : sign.toList = [' ', c, ' '])
    (hspoken : ∀ q ∈ pack.words list, IsSpoken q.toList) (hdistinct : AreDistinct (pack.words list))
    {p : String} (hp : p ∈ pack.words list) (htokens : ∀ t ∈ front ++ back, IsToken t)
    (hno : ∀ q ∈ pack.words list, firstWord q.toList ∉ front ++ back) :
    OperatorWord.replaceWords (OperatorWord.Patterns.ofPack pack)
        (join [' '] (front ++ (words p.toList ++ back))) (list, sign) =
      join [' '] (front ++ (gapped c ++ back)) := by
  have hproper : ∀ q ∈ pack.words list, IsProper q.toList := fun q hq => Or.inl (hspoken q hq)
  have hfront : Nowhere (Begins (pack.words list)) none (frontText front)
      (p.toList ++ backText back) :=
    nowhere_begins_frontText hspoken (fun t ht => htokens t (List.mem_append_left _ ht))
      fun q hq h => hno q hq (List.mem_append_left _ h)
  have hback : Nowhere (Begins (pack.words list))
      (behind (behind none (frontText front)) p.toList) (backText back) [] :=
    nowhere_begins_backText hspoken (fun t ht => htokens t (List.mem_append_right _ ht))
      fun q hq h => hno q hq (List.mem_append_right _ h)
  have hbefore : (behind none (frontText front)).any isWordCharacter = false := behind_frontText rfl
  have hprefers := prefers_pattern hproper hdistinct hp (a := backText back)
    (fits_self (hproper p hp) hbefore (isTail_backText.head (by decide)))
  have hne : p.toList ≠ [] := by
    intro hnil
    have hwords := (hspoken p hp).1
    rw [hnil] at hwords
    exact hwords rfl
  have hsigned : gapped c ≠ [] := List.cons_ne_nil _ _
  rw [OperatorWord.replaceWords, if_neg fun h => hlist h.1, join_around (hspoken p hp).1,
    join_around hsigned, (hspoken p hp).2.1]
  show rewrite? (pattern? (pack.words list)) _ _ = _
  rw [rewrite?_pattern?, rewrite_eq_rewriteAfter,
    rewriteAfter_quiet _ ((opensAt_pattern hproper).quiet hfront), hprefers.rewriteAfter_eq hne,
    (opensAt_pattern hproper).rewriteAfter _ hback]
  show frontText front ++ (sign.toList ++ backText back) = _
  rw [hsign]
  rfl

end Signs

namespace FilledPercentage

variable {pack : LanguagePack} (r : FilledPercentage pack)

/-! ## The operators -/

section Operators

variable (hapart : pack.spelling.IsApart) (hchanges : pack.changeSpelling.IsApart)

/-- The row with a sign for the word of the operation. -/
def halfSigned : List (List Char) := r.row (gapped r.operation.2) (words r.percent.toList)

/-- The row with signs for both words. -/
def signed : List (List Char) := r.row (gapped r.operation.2) (gapped '%')

theorem isLetter_sign : isLetter r.operation.2 = false :=
  isLetter_of_sign (mem_signs_of_change r.operation_mem)

theorem isFilled_halfSigned : IsFilled pack (words r.percent.toList) r.halfSigned :=
  r.isFilled_row fun t ht => (List.mem_append.mp ht).imp_left
    (not_letter_gapped r.isLetter_sign t)

theorem isFilled_signed : IsFilled pack [] r.signed :=
  r.isFilled_row fun t ht => Or.inl ((List.mem_append.mp ht).elim
    (not_letter_gapped r.isLetter_sign t) (not_letter_gapped (by decide) t))

include hapart hchanges

/-- A word of the operation gives way to its sign. -/
theorem replaceWords_operation {sign : String} (hsign : sign.toList = [' ', r.operation.2, ' ']) :
    OperatorWord.replaceWords (OperatorWord.Patterns.ofPack pack) (join [' '] r.tokens)
      (r.operation.1, sign) = join [' '] r.halfSigned := by
  have hlist : ∀ o ∈ changes, o.1 ≠ .percentOf := by decide
  have hspoken : ∀ q ∈ pack.words r.operation.1, IsSpoken q.toList :=
    fun q hq => hapart.spoken_sign (mem_spelling_signs r.operation_mem hq)
  have hdistinct : AreDistinct (pack.words r.operation.1) := fun p hp q hq =>
    areDistinct_signStrings hapart r.operation_mem p (List.mem_cons_of_mem _ hp) q
      (List.mem_cons_of_mem _ hq)
  have hplain : IsFilled pack (words r.percent.toList) (r.row [] (words r.percent.toList)) :=
    r.isFilled_row fun _ => Or.inr
  have htoken := hplain.isToken fun t ht => (r.spoken_percent hapart).isWord_of_mem ht
  have hno : ∀ q ∈ pack.words r.operation.1,
      firstWord q.toList ∉ r.row [] (words r.percent.toList) := fun q hq =>
    hplain.not_mem (mem_searched_word hq) (hspoken q hq).firstWord_mem (hspoken q hq).isWord
      (r.firstWord_change hapart hchanges r.operation_mem hq).1
  rw [row_around_operation, List.nil_append] at htoken hno
  rw [tokens, halfSigned, row_around_operation, row_around_operation]
  exact replaceWords_spoken (hlist _ r.operation_mem) hsign hspoken hdistinct r.word_mem htoken hno

omit hchanges in
/-- A word for a percentage gives way to the percent sign. -/
theorem replaceWords_percentage :
    OperatorWord.replaceWords (OperatorWord.Patterns.ofPack pack) (join [' '] r.halfSigned)
      (.percentage, " % ") = join [' '] r.signed := by
  have hspoken : ∀ q ∈ pack.words .percentage, IsSpoken q.toList :=
    fun q hq => hapart.spoken_percentage (List.mem_map_of_mem hq)
  have hpercents : AreDistinct ("%" :: pack.words .percentage) :=
    areDistinct_of_spelling hapart.distinct.2.2.2.2.2.1
  have hplain : IsFilled pack [] (r.row (gapped r.operation.2) []) :=
    r.isFilled_row fun t ht =>
      Or.inl (not_letter_gapped r.isLetter_sign t (by rwa [List.append_nil] at ht))
  have htoken := hplain.isToken (by simp)
  have hno : ∀ q ∈ pack.words .percentage,
      firstWord q.toList ∉ r.row (gapped r.operation.2) [] := fun q hq =>
    hplain.not_mem (mem_searched_word hq) (hspoken q hq).firstWord_mem (hspoken q hq).isWord
      List.not_mem_nil
  rw [row_around_percent, List.nil_append] at htoken hno
  rw [halfSigned, signed, row_around_percent, row_around_percent]
  exact replaceWords_spoken (by decide) rfl hspoken
    (fun p hp q hq => hpercents p (List.mem_cons_of_mem _ hp) q (List.mem_cons_of_mem _ hq))
    r.percent_mem htoken hno

omit hchanges in
theorem not_mem_halfSigned {c : Char} (hc : c ∈ ['×', '÷']) : c ∉ join [' '] r.halfSigned := by
  have hplain : ∀ c ∈ ['×', '÷'], (isDecimalDigit c = false ∧ isLetter c = false) ∧
      c ∉ ['.', ' '] ∧ ∀ o ∈ changes, c ≠ o.2 := by decide +kernel
  obtain ⟨⟨hdigit, hletter⟩, hother, hoperation⟩ := hplain c hc
  refine r.not_mem_row hdigit hletter hother fun t ht hmem => ?_
  rcases List.mem_append.mp ht with ht | ht
  · exact hoperation _ r.operation_mem (mem_gapped ht hmem)
  · exact Bool.false_ne_true
      (hletter.symm.trans (((r.spoken_percent hapart).isWord_of_mem ht).2 c hmem))

/-- Of the words for sums and differences those of the row give way to their sign. -/
theorem replaceWords_changes : OperatorWord.replaceWords (OperatorWord.Patterns.ofPack pack)
    (OperatorWord.replaceWords (OperatorWord.Patterns.ofPack pack) (join [' '] r.tokens)
      (.addition, " + ")) (.subtraction, " - ") = join [' '] r.halfSigned := by
  have hspoken {o : WordList × Char} (ho : o ∈ changes) {q : String} (hq : q ∈ pack.words o.1) :
      IsSpoken q.toList := hapart.spoken_sign (mem_spelling_signs ho hq)
  have hoperation := r.operation_mem
  simp only [changes, List.mem_cons, List.not_mem_nil, or_false] at hoperation
  rcases hoperation with h | h
  · have hown := r.replaceWords_operation hapart hchanges
      (show " + ".toList = [' ', r.operation.2, ' '] by rw [h]; rfl)
    have ho : (WordList.subtraction, '-') ∈ changes := by decide
    rw [show r.operation.1 = .addition by rw [h]] at hown
    rw [hown]
    refine replaceWords_idle (r.isFilled_halfSigned.nowhere_found
      (fun t ht => (r.spoken_percent hapart).isWord_of_mem ht) fun q hq => ?_) _
    exact Or.inl ⟨mem_searched_word hq, hspoken ho hq, _, (hspoken ho hq).firstWord_mem,
      (r.firstWord_change hapart hchanges ho hq).1⟩
  · have hown := r.replaceWords_operation hapart hchanges
      (show " - ".toList = [' ', r.operation.2, ' '] by rw [h]; rfl)
    have ho : (WordList.addition, '+') ∈ changes := by decide
    rw [show r.operation.1 = .subtraction by rw [h]] at hown
    rw [replaceWords_idle (r.isFilled_tokens.nowhere_found (r.isWord_known hapart)
      fun q hq => ?_), hown]
    obtain ⟨hno, hother⟩ := r.firstWord_change hapart hchanges ho hq
    refine Or.inl ⟨mem_searched_word hq, hspoken ho hq, _, (hspoken ho hq).firstWord_mem, ?_⟩
    exact fun hmem => (List.mem_append.mp hmem).elim (hother (by simp [h])) hno

/-- The words whose signs come before that of the percentage are not found. -/
theorem replaceWords_between {list : WordList}
    (h : list ∈ [.multiplication, .division, .percentOf]) (sign : String) :
    OperatorWord.replaceWords (OperatorWord.Patterns.ofPack pack) (join [' '] r.halfSigned)
      (list, sign) = join [' '] r.halfSigned := by
  have hsign : ∀ c ∈ ['×', '÷'], c ∈ signs := by decide
  refine replaceWords_idle (r.isFilled_halfSigned.nowhere_found
    (fun t ht => (r.spoken_percent hapart).isWord_of_mem ht) fun q hq => ?_) sign
  have hmem : q ∈ pack.betweenStrings := by
    simp only [List.mem_cons, List.not_mem_nil, or_false] at h
    rcases h with rfl | rfl | rfl <;> simp [LanguagePack.betweenStrings, hq]
  rcases hchanges.between _ (List.mem_map_of_mem hmem) with ⟨hspoken, t, ht, hother⟩ | ⟨c, hc, hq⟩
  · exact Or.inl ⟨mem_searched_word hq, hspoken, t, ht, fun h => hother (r.mem_percentWords h)⟩
  · exact Or.inr ⟨c, hsign c hc, hq, r.not_mem_halfSigned hapart hc⟩

omit hapart in
/-- The words whose signs come behind that of the percentage are not found. -/
theorem replaceWords_later {list : WordList}
    (h : list ∈ [.power, .squared, .squareRoot, .openParen, .closeParen]) (sign : String) :
    OperatorWord.replaceWords (OperatorWord.Patterns.ofPack pack) (join [' '] r.signed)
      (list, sign) = join [' '] r.signed := by
  refine replaceWords_idle (r.isFilled_signed.nowhere_found (by simp) fun q hq => ?_) sign
  have hmem : q ∈ pack.laterStrings := by
    simp only [List.mem_cons, List.not_mem_nil, or_false] at h
    rcases h with rfl | rfl | rfl | rfl | rfl <;> simp [LanguagePack.laterStrings, hq]
  have hspoken := hchanges.later _ (List.mem_map_of_mem hmem)
  exact Or.inl ⟨mem_searched_word hq, hspoken, _, hspoken.firstWord_mem, List.not_mem_nil⟩

/-- The words of the row give way to their signs, one after the other. -/
theorem signs_tokens : OperatorWord.signs.foldl
    (OperatorWord.replaceWords (OperatorWord.Patterns.ofPack pack)) (join [' '] r.tokens) =
      join [' '] r.signed := by
  have hbetween {list : WordList} (h : list ∈ [.multiplication, .division, .percentOf]) :=
    r.replaceWords_between hapart hchanges h
  have hlater {list : WordList}
      (h : list ∈ [.power, .squared, .squareRoot, .openParen, .closeParen]) :=
    r.replaceWords_later hchanges h
  simp only [OperatorWord.signs, List.foldl_cons, List.foldl_nil]
  rw [r.replaceWords_changes hapart hchanges, hbetween (by simp), hbetween (by simp),
    hbetween (by simp), r.replaceWords_percentage hapart, hlater (by simp), hlater (by simp),
    hlater (by simp), hlater (by simp), hlater (by simp)]

variable (hpack : pack.IsOrdinary) {lexicon : Lexicon} (hof : lexicon.IsOf pack)

include hpack hof

/-- The operators put a sign for each of the two words. -/
theorem operators_tokens :
    OperatorWord.rewrite lexicon.operators (join [' '] r.tokens) = join [' '] r.signed := by
  have hphrase (kind : PhraseKind) :
      rewrite? ((OperatorWord.Patterns.ofPack pack).phrase kind) (OperatorWord.rewritePhrase kind)
        (join [' '] r.tokens) = join [' '] r.tokens := by
    rcases r.nowhere_phrase hapart hchanges kind with hno | hno
    · refine rewrite?_eq_self (needsAt_operatorPhrase (Or.inl ?_)) _ hno
      exact needsAt_pattern fun q hq => (hpack.template (Or.inl hq)).1
    · refine rewrite?_eq_self (needsAt_operatorPhrase (Or.inr ?_)) _ hno
      exact needsAt_pattern fun q hq => (hpack.template (Or.inr hq)).1
  have hphrases : PhraseKind.all.foldl (fun text kind =>
      rewrite? ((OperatorWord.Patterns.ofPack pack).phrase kind)
        (OperatorWord.rewritePhrase kind) text) (join [' '] r.tokens) = join [' '] r.tokens :=
    List.foldl_fixed' hphrase _
  unfold OperatorWord.rewrite
  rw [hof.operators, hphrases]
  exact r.signs_tokens hapart hchanges

end Operators

/-! ## The second look -/

section SecondLook

/-- The row without its filler. -/
def shown : List (List Char) := [r.base, [r.operation.2], r.rate, ['%']]

theorem operands_signed : Expression.operands r.signed = r.shown := by
  have hnumeral {n : List Char} (hn : IsNumeral n) (ts : List (List Char)) :
      Expression.operands (n :: ts) = n :: Expression.operands ts := by
    obtain ⟨d, ds, rfl, hd⟩ := hn.cons
    exact Expression.operands_cons List.mem_cons_self (isLetter_of_isDecimalDigit hd)
  have hsign {c : Char} (hc : isLetter c = false) : Expression.operands (gapped c) = [[c]] := by
    simp [Expression.operands, gapped, hc]
  have hfiller (ts : List (List Char)) (hts : ts ∈ [r.front, r.left, r.right, r.inner, r.back]) :
      Expression.operands ts = [] := operands_filler (r.filler ts hts)
  simp only [signed, row, operands_append, hnumeral r.base_numeral, hnumeral r.rate_numeral,
    hsign r.isLetter_sign, hsign (show isLetter '%' = false by decide), hfiller r.front (by simp),
    hfiller r.left (by simp), hfiller r.right (by simp), hfiller r.inner (by simp),
    hfiller r.back (by simp)]
  rfl

theorem part_signed : ∀ t ∈ r.signed, Expression.Part t := by
  have hroot {d : Char} (hd : isDecimalDigit d = true) : d ≠ Expression.rootSign := by
    rintro rfl
    exact absurd hd (by decide +kernel)
  have hnumeral {n : List Char} (hn : IsNumeral n) : Expression.Part n := by
    have htidy := isTidyAfter_of_solid hn.ne_nil hn.solid [] false
    rw [List.append_nil] at htidy
    refine .operand hn.ne_nil (by rw [isTidy, htidy, isTidyAfter, Bool.or_true]) (fun c hc => ?_)
      fun b a _ => hn.nowhere_exposed.mono fun _ _ => ExposedPointAt.of_stop
    rcases hn.mem hc with hdigit | rfl
    · exact ⟨isKept_of_isDecimalDigit hdigit, hroot hdigit⟩
    · decide +kernel
  have hgapped {c : Char} (hc : c ∈ ['+', '-', '%']) : ∀ t ∈ gapped c, Expression.Part t := by
    have hempty : Expression.Part [] := .word (by simp) (by decide)
    have hplain : ∀ c ∈ ['+', '-', '%'], isTidy [c] = true ∧
        (Expression.isKept c = true ∧ c ≠ Expression.rootSign) ∧ c ≠ '.' := by decide +kernel
    obtain ⟨htidy, hkept, hpoint⟩ := hplain c hc
    refine List.forall_mem_cons.mpr ⟨hempty, List.forall_mem_cons.mpr ⟨?_,
      List.forall_mem_singleton.mpr hempty⟩⟩
    refine .operand (List.cons_ne_nil c []) htidy (List.forall_mem_singleton.mpr hkept)
      fun b a _ => ?_
    exact nowhere_of_not_mem (fun _ _ => Expression.StopAt.head) fun h =>
      hpoint (List.mem_singleton.mp h).symm
  have hsign : ∀ o ∈ changes, o.2 ∈ ['+', '-', '%'] := by decide
  intro t ht
  rcases r.mem_row ht with hn | hfiller | hmem
  · exact hnumeral hn
  · exact hfiller.part
  · exact (List.mem_append.mp hmem).elim (hgapped (hsign _ r.operation_mem) t)
      (hgapped (by decide) t)

theorem join_shown : join [' '] r.shown =
    r.base ++ ' ' :: ([r.operation.2] ++ ' ' :: (r.rate ++ ' ' :: ['%'])) := by
  simp [shown, join]

/-- Behind the sign for the operation comes a digit, so that no two plus signs come together. -/
theorem nowhere_doublePlus_shown :
    Nowhere Expression.DoublePlusAt none (join [' '] r.shown) [] := by
  have hplain {u a : List Char} {b : Option Char} (hu : '+' ∉ u) :
      Nowhere Expression.DoublePlusAt b u a :=
    nowhere_of_not_mem (fun _ _ => Expression.DoublePlusAt.head) hu
  have hnumeral {n : List Char} (hn : IsNumeral n) : '+' ∉ n := fun hplus =>
    (hn.mem hplus).elim (fun h => absurd h (by decide)) fun h => absurd h (by decide)
  have hbehind : '+' ∉ ' ' :: (r.rate ++ ' ' :: ['%']) := by
    simp only [List.mem_cons, List.mem_append, List.not_mem_nil, or_false, not_or]
    exact ⟨by decide, hnumeral r.rate_numeral, by decide, by decide⟩
  rw [join_shown, nowhere_append, nowhere_cons, List.singleton_append, nowhere_cons]
  refine ⟨hplain (hnumeral r.base_numeral), fun h => ?_, ?_, hplain hbehind⟩
  · exact absurd (Option.some.inj h.head) (by decide)
  · rintro ⟨u, hu, hplus⟩
    obtain ⟨d, ds, hrate, hd⟩ := r.rate_numeral.cons
    obtain ⟨-, rfl⟩ := List.cons.inj hu
    obtain rfl : d = '+' := by
      simpa [hrate, isBlank_of_isDecimalDigit hd, (by decide : isBlank ' ' = true)] using hplus
    exact absurd hd (by decide)

variable (hapart : pack.spelling.IsApart) (hpack : pack.IsOrdinary)

include hapart

/-- In a difference no plus sign stands and no word for a sum. -/
theorem rewritePlus_shown (h : r.operation = (.subtraction, '-')) :
    rewriteOperands (Patterns.ofPack pack).plus (changedBy '+') (join [' '] r.shown) =
      join [' '] r.shown := by
  have hletters : ∀ t ∈ [[r.operation.2]] ++ [['%']],
      (∀ c ∈ t, isLetter c = false) ∧ '+' ∉ t := by
    rw [h]
    decide
  have hplus : '+' ∉ join [' '] r.shown :=
    r.bare.not_mem_row (by decide) (by decide) (by decide) fun t ht => (hletters t ht).2
  have hfilled : IsFilled pack [] r.shown :=
    r.bare.isFilled_row fun t ht => Or.inl (hletters t ht).1
  have hno : Nowhere (FoundAt ("+" :: pack.words .addition)) none (join [' '] r.shown) [] := by
    refine hfilled.nowhere_found (by simp) (List.forall_mem_cons.mpr ⟨?_, fun q hq => ?_⟩)
    · exact Or.inr ⟨'+', by decide, rfl, hplus⟩
    · have hspoken := hapart.spoken_sign
        (mem_spelling_signs (o := (.addition, '+')) (by decide) hq)
      exact Or.inl ⟨mem_searched_word hq, hspoken, _, hspoken.firstWord_mem, List.not_mem_nil⟩
  have hneeds : (signPhrase (sign pack) (pattern ("+" :: pack.words .addition))).NeedsAt
      (FoundAt ("+" :: pack.words .addition)) := needsAt_inOrder (by simp) (needsAt_found _)
  exact hneeds.rewriteAfter _ hno

include hpack

/-- Without its filler the percentage is read. -/
theorem rewritePlusMinus_shown :
    rewritePlusMinus (Patterns.ofPack pack) (join [' '] r.shown) = r.formula := by
  have hmark : PercentMark pack [' ', '%'] := .apart (p := "%") List.mem_cons_self
  have hsign := mem_signs_of_change r.operation_mem
  have hown : rewriteOperands
      (some (signPhrase (sign pack) (pattern (pack.signStrings r.operation))))
      (changedBy r.operation.2) (join [' '] r.shown) = r.formula := by
    have hread := signPhrase_eq_formula hpack hapart r.base_numeral r.rate_numeral
      (changedBy r.operation.2) hmark (isProper_signStrings hpack hsign)
      (areDistinct_signStrings hapart r.operation_mem) List.mem_cons_self
    rw [String.toList_ofList] at hread
    rw [join_shown]
    exact hread
  have hoperation := r.operation_mem
  simp only [changes, List.mem_cons, List.not_mem_nil, or_false] at hoperation
  rcases hoperation with h | h
  · rw [h] at hown
    refine (congrArg _ hown).trans ?_
    exact signPhrase_of_silent hpack r.isFormula.silent r.isFormula.no_percent _ _
  · have hsum := r.rewritePlus_shown hapart h
    rw [h] at hown
    exact (congrArg _ hsum).trans hown

variable (hchanges : pack.changeSpelling.IsApart) {lexicon : Lexicon} (hof : lexicon.IsOf pack)

include hchanges hof

/-- The stages behind the percentages come to the formula. -/
theorem rewriteAll_signed :
    Stage.rewriteAll [.operators, .cleanup] lexicon (join [' '] r.tokens) = r.formula := by
  simp only [Stage.rewriteAll, List.foldl_cons, List.foldl_nil, Stage.rewrite]
  rw [r.operators_tokens hapart hchanges hpack hof, Expression.rewrite,
    Expression.canonicalize_join r.part_signed, operands_signed, hof.percent,
    r.rewritePlusMinus_shown hapart hpack]
  rw [operands_signed]
  exact r.nowhere_doublePlus_shown

end SecondLook

end FilledPercentage

/-! ## Both paths together -/

theorem normalize_text {pack : LanguagePack} (hpack : pack ∈ builtinPacks) {lexicon : Lexicon}
    (hof : lexicon.IsOf pack) (r : FilledPercentage pack) (hlength : r.text.length ≤ 1000) :
    lexicon.normalize r.text = r.formula := by
  have hordinary := isOrdinary_of_mem hpack
  have hapart := isApart_of_mem hpack
  have hchanges := changesApart_of_mem hpack
  have hstages : Stage.all = [.numberWords, .scaleNumbers, .fractions, .numeralMarks] ++
      ([.percentages] ++ [.operators, .cleanup]) := rfl
  rw [lexicon.normalize_of_short hlength, r.text_eq_join hapart, r.prepare_text hapart, hstages,
    Stage.rewriteAll_append, Stage.rewriteAll_append, r.rewriteAll_filled hapart hordinary hof]
  have hpercentages (text : List Char) : Stage.rewriteAll [.percentages] lexicon text =
      PercentPhrase.rewrite (Patterns.ofPack pack) text := by
    rw [← hof.percent]
    rfl
  rw [hpercentages]
  by_cases hnone : r.left = [] ∧ r.right = [] ∧ r.inner = []
  · rw [r.rewrite_adjacent hapart hchanges hordinary hnone.1 hnone.2.1 hnone.2.2]
    exact r.rewriteAll_resolved hordinary hof
  · have hsome : r.left ≠ [] ∨ r.right ≠ [] ∨ r.inner ≠ [] := by
      simpa only [not_and_or] using hnone
    rw [r.rewrite_apart hapart hchanges hordinary hsome]
    exact r.rewriteAll_signed hapart hordinary hchanges hof

/-- With filler around its words a percentage comes to the same formula as without. -/
theorem normalize_filled {pack : LanguagePack} (hpack : pack ∈ builtinPacks)
    (r : FilledPercentage pack) (hlength : r.text.length ≤ 1000) :
    ∃ lexicon, Lexicon.ofPack pack = .ok lexicon ∧
      lexicon.normalize r.text = lexicon.normalize r.plain ∧
      lexicon.normalize r.plain = changedBy r.operation.2 r.base r.rate := by
  obtain ⟨lexicon, hlexicon, hof⟩ := Lexicon.exists_of_mem hpack
  have hsublist : (r.bare.row [r.word.toList] [r.percent.toList]).Sublist
      (r.row [r.word.toList] [r.percent.toList]) := by
    have hmid (t : List Char) (front back : List (List Char)) :
        ([] ++ [t] ++ []).Sublist (front ++ [t] ++ back) :=
      ((List.nil_sublist front).append (List.Sublist.refl [t])).append (List.nil_sublist back)
    exact (List.nil_sublist r.front).append (((hmid _ r.left r.right).append
      ((hmid _ r.inner r.back).cons_cons r.rate)).cons_cons r.base)
  have hplain : lexicon.normalize r.plain = r.formula :=
    normalize_text hpack hof r.bare (Nat.le_trans (length_join_le hsublist) hlength)
  exact ⟨lexicon, hlexicon, by rw [hplain, normalize_text hpack hof r hlength], hplain⟩

theorem isFiller_polite :
    ∀ t ∈ [['s', 'o'], ['u', 'm'], ['u', 'h'], ['p', 'l', 'e', 'a', 's', 'e']],
      IsFiller english t := by
  apply isFiller_of_spelled
  · repeat' constructor
  · decide +kernel

/-- `so 5 um plus uh 3 percent please` -/
def politePercentage : FilledPercentage english where
  operation := (.addition, '+')
  operation_mem := List.mem_cons_self
  word := "plus"
  word_mem := by simp [english, englishWords]
  percent := "percent"
  percent_mem := by simp [english, englishWords]
  base := ['5']
  base_numeral := .whole ⟨by decide, by decide⟩
  rate := ['3']
  rate_numeral := .whole ⟨by decide, by decide⟩
  front := [['s', 'o']]
  left := [['u', 'm']]
  right := [['u', 'h']]
  inner := []
  back := [['p', 'l', 'e', 'a', 's', 'e']]
  filler := by
    intro ts hts t ht
    simp only [List.mem_cons, List.not_mem_nil, or_false] at hts
    apply isFiller_polite
    rcases hts with rfl | rfl | rfl | rfl | rfl <;> simp_all

theorem normalize_filled_english :
    english ∈ builtinPacks ∧ politePercentage.text = "so 5 um plus uh 3 percent please".toList ∧
      politePercentage.text.length ≤ 1000 ∧
      (Lexicon.ofPack english).map (·.normalize politePercentage.text) =
        .ok "(5 * (1 + 3 / 100))".toList := by
  have hpack : english ∈ builtinPacks := List.mem_cons_self
  have htext : politePercentage.text = "so 5 um plus uh 3 percent please".toList := by
    decide +kernel
  have hlength : politePercentage.text.length ≤ 1000 := by
    rw [htext]
    decide
  obtain ⟨lexicon, hlexicon, hsame, hplain⟩ := normalize_filled hpack politePercentage hlength
  refine ⟨hpack, htext, hlength, ?_⟩
  rw [hlexicon, Except.map, hsame, hplain]
  simp [politePercentage, changedBy]

end CalcSpeech
