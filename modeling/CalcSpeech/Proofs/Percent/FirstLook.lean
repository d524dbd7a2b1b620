import CalcSpeech.Proofs.Expression.Leftover
import CalcSpeech.Proofs.Percent.Behind
import CalcSpeech.Proofs.Percent.Changes
import CalcSpeech.Proofs.Percent.Filler

/-!
# Percentages in filler, at first look

The percentages read a percentage with filler in front and behind, and the formula is all that is
left of it in the end (`rewrite_adjacent`, `rewriteAll_resolved`). Where filler stands between its
words they find nothing (`rewrite_apart`): the word of the operation is not between the numbers, or
the word for a percentage is not behind the rate.
-/

namespace CalcSpeech

open Unicode Pattern Vocabulary Text PercentPhrase

/-- The sign and the words for an operation. -/
def LanguagePack.signStrings (pack : LanguagePack) (o : WordList × Char) : List String :=
  String.ofList [o.2] :: pack.words o.1

section Strings

variable {pack : LanguagePack} {o : WordList × Char}

/-- What is spoken of an operation is one of its words. -/
theorem mem_words_of_signStrings (ho : o.2 ∈ signs) {q : String} (hq : q ∈ pack.signStrings o)
    (hspoken : IsSpoken q.toList) : q ∈ pack.words o.1 := by
  rcases List.mem_cons.mp hq with rfl | hq
  · exact absurd String.toList_ofList (hspoken.ne_sign ho)
  · exact hq

theorem mem_signs_of_change (ho : o ∈ changes) : o.2 ∈ signs := by
  have hall : ∀ o ∈ changes, o.2 ∈ signs := by decide
  exact hall o ho

theorem isProper_signStrings (hpack : pack.IsOrdinary) (ho : o.2 ∈ signs) :
    ∀ q ∈ pack.signStrings o, IsProper q.toList := isProper_sign hpack o.1 ho

theorem areDistinct_signStrings (hapart : pack.spelling.IsApart) (ho : o ∈ changes) :
    AreDistinct (pack.signStrings o) := by
  simp only [changes, List.mem_cons, List.not_mem_nil, or_false] at ho
  rcases ho with rfl | rfl
  · exact areDistinct_of_spelling hapart.distinct.2.2.2.2.2.2.1
  · exact areDistinct_of_spelling hapart.distinct.2.2.2.2.2.2.2

/-- No phrase begins with filler, nor behind it with a word that none has as its first. -/
theorem not_begins_filled {phrases : List String} {fillers : List (List Char)} {e : List Char}
    (hfillers : ∀ t ∈ fillers, IsFiller pack t) (he : IsSpoken e)
    (hphrases : ∀ q ∈ phrases, IsSpoken q.toList → q ∈ pack.searchedStrings ∧
      (fillers = [] → firstWord q.toList ∉ words e)) (back : List (List Char)) :
    ¬ Begins phrases (some ' ') (join [' '] (fillers ++ words e ++ back)) := by
  cases fillers with
  | cons t ts =>
    have ht := hfillers t List.mem_cons_self
    refine not_begins_join ht.isWord fun q hq hspoken hsame => ?_
    exact ht.unknown q (hphrases q hq hspoken).1 (hsame ▸ hspoken.firstWord_mem)
  | nil =>
    obtain ⟨t, ts, hwords⟩ := List.exists_cons_of_ne_nil he.1
    have ht : t ∈ words e := by simp [hwords]
    rw [hwords]
    refine not_begins_join (he.isWord_of_mem ht) fun q hq hspoken hsame => ?_
    exact (hphrases q hq hspoken).2 rfl (hsame ▸ ht)

end Strings

theorem IsFiller.part {pack : LanguagePack} {t : List Char} (h : IsFiller pack t) :
    Expression.Part t := .word h.letters h.rootless

theorem operands_append (ts us : List (List Char)) :
    Expression.operands (ts ++ us) = Expression.operands ts ++ Expression.operands us :=
  List.filter_append ts us

theorem operands_filler {pack : LanguagePack} {ts : List (List Char)}
    (h : ∀ t ∈ ts, IsFiller pack t) : Expression.operands ts = [] := by
  refine List.filter_eq_nil_iff.mpr fun t ht => ?_
  rw [List.all_eq_true.mpr (h t ht).letters]
  exact Bool.false_ne_true

theorem PercentPhrase.IsFormula.part {f : List Char} (h : IsFormula f) : Expression.Part f := by
  have hroot : ∀ c ∈ f, (c == Expression.rootSign) = false :=
    h.forall_eq_false (beq_eq_false_of_digit (by decide +kernel)) (by decide)
  obtain ⟨u, hu⟩ := h.exists_cons
  refine .operand (by simp [hu]) h.tidy (fun c hc => ⟨?_, ?_⟩) fun _ _ _ => h.nowhere_stop
  · exact h.forall_mem (fun _ => isKept_of_isDecimalDigit) (by decide) c hc
  · exact beq_eq_false_iff_ne.mp (hroot c hc)

namespace FilledPercentage

variable {pack : LanguagePack} (r : FilledPercentage pack)

/-- The tokens behind the rate. -/
def behindRate : List (List Char) := r.inner ++ words r.percent.toList ++ r.back

/-- The tokens behind the base. -/
def behindBase : List (List Char) :=
  r.left ++ words r.word.toList ++ r.right ++ r.rate :: r.behindRate

section Places

variable (hapart : pack.spelling.IsApart)

include hapart

/-- Behind a numeral of the row comes what comes behind the base or the rate. -/
theorem behind_numeral {n : List Char} {ts : List (List Char)} (hn : IsNumeral n)
    (h : n :: ts <:+ r.tokens) : ts = r.behindBase ∨ ts = r.behindRate := by
  have hno {us : List (List Char)} (hus : ∀ t ∈ us, IsWord t) : n ∉ us :=
    fun hmem => hn.ne_word (hus n hmem) rfl
  have hfiller {us : List (List Char)} (hus : us ∈ [r.front, r.left, r.right, r.inner, r.back]) :
      ∀ t ∈ us, IsWord t := fun t ht => (r.filler us hus t ht).isWord
  have hbetween : ∀ t ∈ r.left ++ words r.word.toList ++ r.right, IsWord t :=
    List.forall_mem_append.mpr ⟨List.forall_mem_append.mpr ⟨hfiller (by simp),
      fun _ ht => (r.spoken_word hapart).isWord_of_mem ht⟩, hfiller (by simp)⟩
  have hlast : ∀ t ∈ r.behindRate, IsWord t :=
    List.forall_mem_append.mpr ⟨List.forall_mem_append.mpr ⟨hfiller (by simp),
      fun _ ht => (r.spoken_percent hapart).isWord_of_mem ht⟩, hfiller (by simp)⟩
  rcases List.suffix_cons_iff.mp (suffix_of_not_mem (hno (hfiller (by simp))) h) with heq | h
  · exact Or.inl (List.cons.inj heq).2
  · rcases List.suffix_cons_iff.mp (suffix_of_not_mem (hno hbetween) h) with heq | h
    · exact Or.inr (List.cons.inj heq).2
    · exact absurd (h.subset List.mem_cons_self) (hno hlast)

theorem nowhere_numberThen_tokens {R : Option Char → List Char → Prop}
    (hR : ∀ b r, R b r → r.head?.any canBegin = true)
    (hbase : ¬ R (some ' ') (join [' '] r.behindBase))
    (hrate : ¬ R (some ' ') (join [' '] r.behindRate)) :
    Nowhere (NumberThen R) none (join [' '] r.tokens) [] := by
  refine nowhere_numberThen hR (fun t ht => ?_) (fun n ts hn hts => ?_) rfl
  · rcases r.mem_row ht with hn | hfiller | hmem
    · exact Or.inl hn
    · exact Or.inr hfiller.isWord
    · exact Or.inr (r.isWord_known hapart t hmem)
  · rcases r.behind_numeral hapart hn hts with rfl | rfl
    · exact hbase
    · exact hrate

/-- No percentage begins with a word of the operation. -/
theorem percent_ne_word {q : String} (hq : q ∈ pack.words .percentage) :
    firstWord q.toList ∉ words r.word.toList := by
  intro h
  have hguarded : q.toList ∈ pack.spelling.guarded :=
    List.mem_append_left _ (List.mem_append_right _ (List.mem_map_of_mem hq))
  exact hapart.carrier_guarded _ (r.mem_carriers h) (List.mem_map_of_mem hguarded)

theorem not_begins_behindBase {phrases : List String}
    (h : ∀ q ∈ phrases, IsSpoken q.toList → q ∈ pack.searchedStrings ∧
      (r.left = [] → firstWord q.toList ∉ words r.word.toList)) :
    ¬ Begins phrases (some ' ') (join [' '] r.behindBase) := by
  rw [behindBase, List.append_assoc]
  exact not_begins_filled (r.filler r.left (by simp)) (r.spoken_word hapart) h _

theorem not_begins_behindRate {phrases : List String}
    (h : ∀ q ∈ phrases, IsSpoken q.toList → q ∈ pack.searchedStrings ∧
      (r.inner = [] → firstWord q.toList ∉ words r.percent.toList)) :
    ¬ Begins phrases (some ' ') (join [' '] r.behindRate) :=
  not_begins_filled (r.filler r.inner (by simp)) (r.spoken_percent hapart) h _

/-- With filler between the rate and the word for a percentage no percentage is marked. -/
theorem nowhere_marked (hinner : r.inner ≠ []) :
    Nowhere (NumberThen (Begins ("%" :: pack.words .percentage))) none
      (join [' '] r.tokens) [] := by
  have hwords : ∀ q ∈ "%" :: pack.words .percentage, IsSpoken q.toList →
      q ∈ pack.words .percentage := fun q hq hspoken =>
    mem_words_of_signStrings (o := (.percentage, '%')) (by decide) hq hspoken
  refine r.nowhere_numberThen_tokens hapart (fun _ _ => Begins.canBegin) ?_ ?_
  · refine r.not_begins_behindBase hapart fun q hq hspoken => ?_
    have hq := hwords q hq hspoken
    exact ⟨mem_searched_word hq, fun _ => r.percent_ne_word hapart hq⟩
  · exact r.not_begins_behindRate hapart fun q hq hspoken =>
      ⟨mem_searched_word (hwords q hq hspoken), fun h => absurd h hinner⟩

variable (hchanges : pack.changeSpelling.IsApart)

include hchanges

/-- No operation begins with a word of a percentage, nor the other one with a word of this one. -/
theorem firstWord_change {o : WordList × Char} (ho : o ∈ changes) {q : String}
    (hq : q ∈ pack.words o.1) : firstWord q.toList ∉ words r.percent.toList ∧
      (o ≠ r.operation → firstWord q.toList ∉ words r.word.toList) := by
  have hoperation := r.operation_mem
  have hword := r.word_mem
  simp only [changes, List.mem_cons, List.not_mem_nil, or_false] at ho hoperation
  rcases ho with rfl | rfl
  · have hother := hapart.addition_subtraction _ (List.mem_map_of_mem hq)
    simp only [List.mem_append, not_or] at hother
    refine ⟨fun h => hother.2 (r.mem_percentWords h), fun hne h => ?_⟩
    rw [hoperation.resolve_left (Ne.symm hne)] at hword
    exact hother.1 (List.mem_flatMap.mpr ⟨_, List.mem_map_of_mem hword, h⟩)
  · have hother := (hchanges.subtraction _ (List.mem_map_of_mem hq)).2
    simp only [List.mem_append, not_or] at hother
    refine ⟨fun h => hother.2 (r.mem_percentWords h), fun hne h => ?_⟩
    rw [hoperation.resolve_right (Ne.symm hne)] at hword
    exact hother.1 (List.mem_flatMap.mpr ⟨_, List.mem_map_of_mem hword, h⟩)

variable (hpack : pack.IsOrdinary)

include hpack

/-- With filler around its words an operation does not stand between the numbers, and the other one
does not anyway. -/
theorem nowhere_operates {o : WordList × Char} (ho : o ∈ changes)
    (h : o = r.operation → r.left ≠ [] ∨ r.right ≠ []) :
    Nowhere (NumberThen (OperatesAt (pack.signStrings o))) none (join [' '] r.tokens) [] := by
  have hsign := mem_signs_of_change ho
  have hproper := isProper_signStrings hpack hsign
  have hwords {q : String} (hq : q ∈ pack.signStrings o) (hspoken : IsSpoken q.toList) :=
    mem_words_of_signStrings hsign hq hspoken
  refine r.nowhere_numberThen_tokens hapart (fun _ _ h => (h.begins hproper).canBegin) ?_ ?_
  · by_cases hleft : o = r.operation ∧ r.left = []
    · -- the word is read right behind the base, but filler stands behind it
      obtain ⟨rfl, hleft⟩ := hleft
      obtain ⟨t, ts, hright⟩ := List.exists_cons_of_ne_nil ((h rfl).resolve_left fun h => h hleft)
      have ht : IsFiller pack t := r.filler r.right (by simp) t (by simp [hright])
      have hspoken := r.spoken_word hapart
      have hword : r.word ∈ pack.signStrings r.operation := List.mem_cons_of_mem _ r.word_mem
      have hrow : join [' '] r.behindBase =
          r.word.toList ++ ' ' :: join [' '] (t :: (ts ++ r.rate :: r.behindRate)) := by
        rw [behindBase, hleft, hright, List.nil_append, List.append_assoc,
          join_append hspoken.1 (by simp), hspoken.2.1]
        rfl
      rw [hrow]
      exact not_operates_word hproper (areDistinct_signStrings hapart ho) hword ht.isWord
    · refine fun hop => r.not_begins_behindBase hapart (fun q hq hspoken => ?_) (hop.begins hproper)
      have hq := hwords hq hspoken
      exact ⟨mem_searched_word hq, fun hnil =>
        (r.firstWord_change hapart hchanges ho hq).2 fun hsame => hleft ⟨hsame, hnil⟩⟩
  · refine fun hop => r.not_begins_behindRate hapart (fun q hq hspoken => ?_) (hop.begins hproper)
    have hq := hwords hq hspoken
    exact ⟨mem_searched_word hq, fun _ => (r.firstWord_change hapart hchanges ho hq).1⟩

end Places

/-! ## The first look -/

section FirstLook

variable (hapart : pack.spelling.IsApart) (hchanges : pack.changeSpelling.IsApart)
  (hpack : pack.IsOrdinary)

include hapart hchanges

/-- Of each phrase with a verb no verb begins in the row, or no connective. -/
theorem nowhere_phrase (kind : PhraseKind) :
    Nowhere (Begins (pack.phrases kind).verbs) none (join [' '] r.tokens) [] ∨
      Nowhere (Begins (pack.phrases kind).connectives) none (join [' '] r.tokens) [] := by
  have hkind : kind ∈ PhraseKind.all := by cases kind <;> decide
  have hpair : ((pack.phrases kind).verbs.map String.toList,
      (pack.phrases kind).connectives.map String.toList) ∈
        pack.changeSpelling.verbs.zip pack.changeSpelling.links := by
    simp only [LanguagePack.changeSpelling, List.zip_map', List.mem_map]
    exact ⟨kind, hkind, rfl⟩
  have hoperation : r.word.toList ∈
      pack.changeSpelling.additions ++ pack.changeSpelling.subtractions := r.word_mem_signs
  have hno {phrases : List String} (hsearched : ∀ q ∈ phrases, q ∈ pack.searchedStrings)
      (hbegins : ∀ v ∈ phrases.map String.toList, ChangeSpelling.BeginsApart
        (words r.word.toList ++ pack.changeSpelling.percentWords) v) :
      Nowhere (Begins phrases) none (join [' '] r.tokens) [] := by
    refine r.isFilled_tokens.nowhere_begins (r.isWord_known hapart) (fun q hq => ?_) rfl
    obtain ⟨hspoken, hother⟩ := hbegins _ (List.mem_map_of_mem hq)
    refine ⟨hsearched q hq, hspoken, fun h => hother ?_⟩
    exact (List.mem_append.mp h).elim (List.mem_append_left _)
      fun h => List.mem_append_right _ (r.mem_percentWords h)
  exact (hchanges.phrase _ hpair _ hoperation).imp
    (hno fun q hq => mem_searched_phrase (Or.inl hq))
    (hno fun q hq => mem_searched_phrase (Or.inr hq))

include hpack

/-- The percentages look for the row as a sum or difference only. -/
theorem rewrite_tokens : PercentPhrase.rewrite (Patterns.ofPack pack) (join [' '] r.tokens) =
    rewritePlusMinus (Patterns.ofPack pack) (join [' '] r.tokens) := by
  have hadded := verbPhrase_eq_self hpack (fun rate base => changedBy '+' base rate) .add
    (r.nowhere_phrase hapart hchanges .add)
  have hsubtracted := verbPhrase_eq_self hpack (fun rate base => changedBy '-' base rate) .subtract
    (r.nowhere_phrase hapart hchanges .subtract)
  have hof := quantityPhrase_eq_self hpack (fun rate base => shareOf base rate)
    (r.isFilled_tokens.nowhere_begins (r.isWord_known hapart) (fun q hq => by
      have hmem : q.toList ∈ pack.spelling.ofWords := List.mem_map_of_mem hq
      have hjoint : q.toList ∈ pack.spelling.joints := List.mem_append_right _ hmem
      have hother := hapart.of_sign _ hmem
      refine ⟨mem_searched_word hq, hapart.spoken_joint hjoint, fun h => hother ?_⟩
      rw [(firstWord_of_joint hapart hjoint).1] at h
      exact (List.mem_append.mp h).elim
        (fun h => List.mem_append_left _ (List.mem_flatMap.mpr ⟨_, r.word_mem_signs, h⟩))
        fun h => List.mem_append_right _ (r.mem_percentWords h)) rfl)
  show rewritePlusMinus _ (rewriteOperands _ _ (rewriteOperands
    (verbPhrase? _ (pack.phrases .subtract)) _ (rewriteOperands (verbPhrase? _ _) _ _))) = _
  rw [hadded, hsubtracted, hof]

/-- A sum or difference with filler around its word, or without being marked, is passed over; the
other operation is in any case. -/
theorem signPhrase_tokens {o : WordList × Char} (ho : o ∈ changes)
    (h : (o = r.operation → r.left ≠ [] ∨ r.right ≠ []) ∨ r.inner ≠ [])
    (formula : List Char → List Char → List Char) :
    rewriteOperands (some (signPhrase (sign pack) (pattern (pack.signStrings o)))) formula
      (join [' '] r.tokens) = join [' '] r.tokens := by
  have hproper := isProper_signStrings hpack (mem_signs_of_change ho)
  rcases h with h | h
  · have hoperates := r.nowhere_operates hapart hchanges hpack ho h
    exact (needsAt_operates hproper _).rewriteAfter _ hoperates
  · have hpercents := isProper_signStrings hpack (o := (.percentage, '%')) (by decide)
    exact (needsAt_marked hpercents _).rewriteAfter _ (r.nowhere_marked hapart h)

/-- With filler between its words the percentage is not read. -/
theorem rewrite_apart (h : r.left ≠ [] ∨ r.right ≠ [] ∨ r.inner ≠ []) :
    PercentPhrase.rewrite (Patterns.ofPack pack) (join [' '] r.tokens) = join [' '] r.tokens := by
  have hphrase {o : WordList × Char} (ho : o ∈ changes) (f : List Char → List Char → List Char) :=
    r.signPhrase_tokens hapart hchanges hpack ho
      (or_assoc.mpr h |>.imp_left fun h _ => h) f
  rw [r.rewrite_tokens hapart hchanges hpack]
  show rewriteOperands (Patterns.ofPack pack).minus _ (rewriteOperands (Patterns.ofPack pack).plus
    _ _) = _
  have hplus := hphrase (o := (.addition, '+')) (by decide) (changedBy '+')
  have hminus := hphrase (o := (.subtraction, '-')) (by decide) (changedBy '-')
  exact (congrArg _ hplus).trans hminus

end FirstLook

/-! ## Without filler between the words -/

/-- The formula that the percentage stands for. -/
def formula : List Char := changedBy r.operation.2 r.base r.rate

theorem isFormula : IsFormula r.formula := by
  have hsign : ∀ o ∈ changes, o.2 = '+' ∨ o.2 = '-' := by decide
  exact .changed (hsign _ r.operation_mem) r.base_numeral r.rate_numeral

/-- The formula with filler in front and behind. -/
def resolved : List (List Char) := r.front ++ ([r.formula] ++ r.back)

theorem isFilled_resolved : IsFilled pack [] r.resolved := by
  have hformula : ∀ c ∈ r.formula, isLetter c = false :=
    r.isFormula.forall_eq_false (fun _ => isLetter_of_isDecimalDigit) (by decide)
  intro t ht
  simp only [resolved, List.mem_append, List.mem_singleton] at ht
  rcases ht with h | rfl | h
  · exact Or.inl (r.filler r.front (by simp) t h)
  · exact Or.inr (Or.inl hformula)
  · exact Or.inl (r.filler r.back (by simp) t h)

/-- In the formula and the filler around it no phrase of a pack is found. -/
theorem nowhere_resolved {phrases : List String}
    (h : ∀ q ∈ phrases, q ∈ pack.searchedStrings ∧ IsPhrase q.toList ∨ q.toList = ['%']) :
    Nowhere (FoundAt phrases) none (join [' '] r.resolved) [] := by
  have hsigns : ∀ c ∈ ['%', '×', '÷'], c ∈ signs ∧ c ≠ ' ' ∧ isLetter c = false := by
    decide +kernel
  have hformula : ∀ c ∈ r.formula, ['%', '×', '÷'].contains c = false :=
    r.isFormula.forall_eq_false (fun _ => contains_of_isDecimalDigit (by decide +kernel))
      (by decide +kernel)
  have hsign {c : Char} (hc : c ∈ ['%', '×', '÷']) : c ∉ join [' '] r.resolved := by
    obtain ⟨-, hspace, hletter⟩ := hsigns c hc
    have hfiller {ts : List (List Char)} (hts : ts ∈ [r.front, r.left, r.right, r.inner, r.back])
        {t : List Char} (ht : t ∈ ts) : c ∉ t := fun hmem =>
      Bool.false_ne_true (hletter.symm.trans ((r.filler ts hts t ht).letters c hmem))
    intro hmem
    rcases mem_join hmem with h | ⟨t, ht, hct⟩
    · exact hspace h
    · simp only [resolved, List.mem_append, List.mem_singleton] at ht
      rcases ht with ht | rfl | ht
      · exact hfiller (by simp) ht hct
      · exact Bool.false_ne_true ((hformula c hct).symm.trans (List.contains_iff_mem.mpr hc))
      · exact hfiller (by simp) ht hct
  refine r.isFilled_resolved.nowhere_found (by simp) fun q hq => ?_
  rcases h q hq with ⟨hmem, hphrase⟩ | hpercent
  · refine hphrase.cases.imp (fun hspoken => ?_) ?_
    · exact ⟨hmem, hspoken, _, hspoken.firstWord_mem, by simp⟩
    · rintro ⟨c, hc, hq⟩
      exact ⟨c, (hsigns c hc).1, hq, hsign hc⟩
  · exact Or.inr ⟨'%', by decide, hpercent, hsign (by decide)⟩

section Adjacent

variable (hapart : pack.spelling.IsApart) (hchanges : pack.changeSpelling.IsApart)
  (hpack : pack.IsOrdinary)

include hapart hpack

omit hpack in
/-- The text of the percentage without filler between its words. -/
theorem join_adjacent :
    join [' '] (r.base :: (words r.word.toList ++ r.rate :: words r.percent.toList)) =
      r.base ++ ' ' :: (r.word.toList ++ ' ' :: (r.rate ++ ' ' :: r.percent.toList)) := by
  have hspoken := r.spoken_word hapart
  have hpercent := r.spoken_percent hapart
  have hrate : join [' '] ([r.rate] ++ words r.percent.toList) = _ :=
    join_append (by simp) hpercent.1
  have hbase : join [' '] ([r.base] ++ (words r.word.toList ++ r.rate :: words r.percent.toList)) =
      _ := join_append (by simp) (by simp)
  rw [hpercent.2.1] at hrate
  rw [join_append hspoken.1 (by simp), hspoken.2.1] at hbase
  exact hbase.trans (congrArg (fun u => r.base ++ ' ' :: (r.word.toList ++ ' ' :: u)) hrate)

/-- In the middle of filler the percentage becomes its formula. -/
theorem signPhrase_adjacent (hleft : r.left = []) (hright : r.right = []) (hinner : r.inner = []) :
    rewriteOperands (some (signPhrase (sign pack) (pattern (pack.signStrings r.operation))))
      (changedBy r.operation.2) (join [' '] r.tokens) = join [' '] r.resolved := by
  have htokens : r.tokens = r.front ++
      ((r.base :: (words r.word.toList ++ r.rate :: words r.percent.toList)) ++ r.back) := by
    simp [tokens, row, hleft, hright, hinner]
  have hmid := r.join_adjacent hapart
  have hmark : PercentMark pack (' ' :: r.percent.toList) :=
    .apart (List.mem_cons_of_mem _ r.percent_mem)
  have hprefers := prefers_signPhrase hpack hapart r.base_numeral r.rate_numeral hmark
    (isProper_signStrings hpack (mem_signs_of_change r.operation_mem))
    (areDistinct_signStrings hapart r.operation_mem) (List.mem_cons_of_mem _ r.word_mem)
    (b := behind none (frontText r.front)) (a := backText r.back)
    (isTail_backText.head (by decide))
  rw [← hmid] at hprefers
  -- a sum begins with a digit, and there is none in filler
  have hopens : (signPhrase (sign pack) (pattern (pack.signStrings r.operation))).Opens
      isDecimalDigit := (opens_atLeastOne_char.seq.group 1).seq
  have hfiller {ts : List (List Char)} (hts : ts ∈ [r.front, r.left, r.right, r.inner, r.back]) :
      ∀ t ∈ ts, ∀ c ∈ t, isDecimalDigit c = false :=
    fun t ht c hc => isDecimalDigit_of_isLetter ((r.filler ts hts t ht).letters c hc)
  have hfront : ∀ c ∈ frontText r.front, isDecimalDigit c = false :=
    forall_frontText (by decide) (hfiller (by simp))
  have hback : ∀ c ∈ backText r.back, isDecimalDigit c = false :=
    forall_backText (by decide) (hfiller (by simp))
  rw [htokens, resolved, join_around (by simp), join_around (by simp)]
  show (signPhrase (sign pack) (pattern (pack.signStrings r.operation))).rewriteAfter _ none _ = _
  rw [rewriteAfter_quiet _ (hopens.quiet (nowhere_head hfront)),
    hprefers.rewriteAfter_eq (by rw [hmid]; simp), hopens.rewriteAfter _ (nowhere_head hback)]
  show _ ++ (changedBy r.operation.2 (plainOperand r.base) (plainOperand r.rate) ++ _) = _
  rw [r.base_numeral.plainOperand_eq, r.rate_numeral.plainOperand_eq]
  rfl

omit hapart in
theorem isPhrase_searched {list : WordList} {q : String} (hq : q ∈ pack.words list) :
    q ∈ pack.searchedStrings ∧ IsPhrase q.toList ∨ q.toList = ['%'] :=
  Or.inl ⟨mem_searched_word hq, hpack.words hq⟩

include hchanges

/-- Without filler between its words the percentage is read. -/
theorem rewrite_adjacent (hleft : r.left = []) (hright : r.right = []) (hinner : r.inner = []) :
    PercentPhrase.rewrite (Patterns.ofPack pack) (join [' '] r.tokens) = join [' '] r.resolved := by
  have hown := r.signPhrase_adjacent hapart hpack hleft hright hinner
  have hother {o : WordList × Char} (ho : o ∈ changes) (hne : o ≠ r.operation) :=
    r.signPhrase_tokens hapart hchanges hpack ho (Or.inl fun h => absurd h hne)
  have hdone (o : WordList × Char) (f : List Char → List Char → List Char) :
      rewriteOperands (some (signPhrase (sign pack) (pattern (pack.signStrings o)))) f
        (join [' '] r.resolved) = join [' '] r.resolved := by
    have hpercent : (sign pack).NeedsAt (FoundAt ("%" :: pack.words .percentage)) :=
      needsAt_found _
    have hneeds : (signPhrase (sign pack) (pattern (pack.signStrings o))).NeedsAt
        (FoundAt ("%" :: pack.words .percentage)) := needsAt_inOrder (by simp) hpercent
    refine hneeds.rewriteAfter _ (r.nowhere_resolved ?_)
    exact List.forall_mem_cons.mpr ⟨Or.inr rfl, fun q hq => isPhrase_searched hpack hq⟩
  have hoperation := r.operation_mem
  simp only [changes, List.mem_cons, List.not_mem_nil, or_false] at hoperation
  rw [r.rewrite_tokens hapart hchanges hpack]
  rcases hoperation with h | h
  · rw [h] at hown
    exact (congrArg _ hown).trans (hdone (.subtraction, '-') (changedBy '-'))
  · have hplus := hother (o := (.addition, '+')) (by decide) (by simp [h]) (changedBy '+')
    rw [h] at hown
    exact (congrArg _ hplus).trans hown

variable {lexicon : Lexicon} (hof : lexicon.IsOf pack)

omit hapart hchanges

include hof

/-- Of the formula and the filler around it the formula is left. -/
theorem rewriteAll_resolved :
    Stage.rewriteAll [.operators, .cleanup] lexicon (join [' '] r.resolved) = r.formula := by
  have hoperators : OperatorWord.rewrite lexicon.operators (join [' '] r.resolved) =
      join [' '] r.resolved := by
    refine operators_idle hof (fun kind => r.nowhere_resolved fun q hq => ?_)
      fun sign _ => r.nowhere_resolved fun q hq => isPhrase_searched hpack hq
    exact Or.inl ⟨mem_searched_phrase (Or.inl hq), hpack.template (Or.inl hq)⟩
  have hparts : ∀ t ∈ r.resolved, Expression.Part t := by
    intro t ht
    simp only [resolved, List.mem_append, List.mem_singleton] at ht
    rcases ht with h | rfl | h
    · exact (r.filler r.front (by simp) t h).part
    · exact r.isFormula.part
    · exact (r.filler r.back (by simp) t h).part
  have hoperands : Expression.operands r.resolved = [r.formula] := by
    obtain ⟨u, hu⟩ := r.isFormula.exists_cons
    have hkept : Expression.operands [r.formula] = [r.formula] :=
      Expression.operands_cons (c := '(') (by simp [hu]) (by decide)
    rw [resolved, operands_append, operands_append, operands_filler (r.filler r.front (by simp)),
      operands_filler (r.filler r.back (by simp)), hkept]
    rfl
  simp only [Stage.rewriteAll, List.foldl_cons, List.foldl_nil, Stage.rewrite]
  rw [hoperators, Expression.rewrite, Expression.canonicalize_join hparts, hoperands, hof.percent]
  · exact r.isFormula.rewritePlusMinus_eq hpack
  · rw [hoperands]
    exact r.isFormula.nowhere_doublePlus

end Adjacent

end FilledPercentage

end CalcSpeech
