import CalcSpeech.Proofs.Formula
import CalcSpeech.Proofs.Operator.Chain

/-!
# Signs for the operators of a chain

In a chain one list of operators after the other gives way to its sign (`replaceWords_chain`), no
phrase around two operands is found (`phrase_chain`), and of what is left only the gaps are
collapsed, so that a chain keeps every operand and every operator in order (`normalize_chain`).
-/

namespace CalcSpeech

open Unicode Pattern Vocabulary Text

theorem IsNumeral.nowhere_begins {n : List Char} (hn : IsNumeral n) (phrases : List String)
    {b : Option Char} {a : List Char} : Nowhere (Begins phrases) b n a := by
  have hdigits : ∀ c ∈ signs, isDecimalDigit c = false ∧ c ≠ '.' := by decide +kernel
  have hpoint : isLetter '.' = false := by decide
  apply Vocabulary.nowhere_begins
  · intro p _ hspoken
    exact nowhere_word_of_no_letter hspoken.isWord
      (hn.forall_eq_false hpoint fun c hc => isLetter_of_isDecimalDigit hc)
  · intro c hc _ hmem
    rcases hn.mem hmem with hdigit | rfl
    · exact Bool.false_ne_true ((hdigits c hc).1.symm.trans hdigit)
    · exact (hdigits '.' hc).2 rfl

/-! ## One pass over the operators -/

section Passes

variable {p : Pattern} {change : Match → List Char} {say say' : Link → List Char}
  {links : List Link} {n : List Char} (hn : IsNumeral n) (hlinks : ∀ l ∈ links, IsNumeral l.numeral)
  (hspace : ∀ b r, p.matchAt? b (' ' :: r) = none)
  (hnumeral : ∀ n, IsNumeral n → ∀ b a, p.Quiet b n a)
  (hsay : ∀ l ∈ links, ∀ d r, isDecimalDigit d = true →
    p.rewriteAfter change (some ' ') (say l ++ ' ' :: d :: r) =
      say' l ++ p.rewriteAfter change (behind (some ' ') (say l)) (' ' :: d :: r))

include hlinks hspace hnumeral hsay

/-- What rewrites each operator on its own rewrites the links of a chain one by one. -/
theorem rewriteAfter_linksText (b : Option Char) :
    p.rewriteAfter change b (linksText say links) = linksText say' links := by
  induction links generalizing b with
  | nil => rfl
  | cons l links ih =>
    obtain ⟨hl, hrest⟩ := List.forall_mem_cons.mp hlinks
    obtain ⟨hown, hothers⟩ := List.forall_mem_cons.mp hsay
    obtain ⟨d, ds, hd, hdigit⟩ := hl.cons
    have hlater := ih hrest hothers (behind (some ' ') l.numeral)
    rw [linksText_cons, linksText_cons, rewriteAfter_plain change (hspace _ _)]
    have hoperator := hown d (ds ++ linksText say links) hdigit
    rw [← List.cons_append, ← hd] at hoperator
    rw [hoperator, rewriteAfter_plain change (hspace _ _),
      rewriteAfter_quiet change (hnumeral _ hl _ _), hlater]

include hn

theorem rewrite_chainText :
    p.rewrite change (chainText say n links) = chainText say' n links := by
  rw [rewrite_eq_rewriteAfter, chainText, rewriteAfter_quiet change (hnumeral n hn _ _),
    rewriteAfter_linksText hlinks hspace hnumeral hsay, chainText]

end Passes

/-- What stands for an operator once the operators of some lists have given way to their signs. -/
def Link.said (done : List WordList) (l : Link) : List Char :=
  if l.list ∈ done then [' ', l.sign, ' '] else l.spoken

theorem operations_plain : ∀ o ∈ operations, isLetter o.2 = false ∧ isVerbal o.2 = false := by
  decide

/-- An operation has one sign. -/
theorem sign_unique : ∀ o ∈ operations, ∀ o' ∈ operations, o.1 = o'.1 → o.2 = o'.2 := by decide

section Words

variable {pack : LanguagePack} (hpack : pack.IsOrdinary) {n : List Char} {links : List Link}
  (hn : IsNumeral n) (hlinks : ∀ l ∈ links, l.IsOf pack)

include hpack

/-- In a sign with spaces around it no operator begins. -/
theorem nowhere_begins_sign {l : Link} (hl : l.IsOf pack) (list : WordList) {b : Option Char}
    {a : List Char} : Nowhere (Begins (pack.words list)) b [' ', l.sign, ' '] a := by
  obtain ⟨hletter, hverbal⟩ := operations_plain _ hl.operation
  apply nowhere_begins
  · intro p _ hspoken
    apply nowhere_word_of_no_letter hspoken.isWord
    simp [hletter, show isLetter ' ' = false by decide]
  · intro c _ hmem hin
    obtain ⟨-, d, hd, hown⟩ := hpack.words hmem
    rw [String.toList_ofList] at hd
    obtain rfl := List.mem_singleton.mp hd
    have hplain : ∀ c ∈ [' ', l.sign, ' '], isVerbal c = false := by
      simp [hverbal, show isVerbal ' ' = false by decide]
    rw [hplain d hin] at hown
    exact Bool.false_ne_true hown

/-- In an operator none begins that has no first word in it. -/
theorem nowhere_begins_operator {l : Link} (hl : l.IsOf pack) {list : WordList}
    (hlater : ∀ e ∈ pack.words list, firstWord e.toList ∉ words l.spoken) {b : Option Char}
    {r : List Char} : Nowhere (Begins (pack.words list)) b l.spoken (' ' :: r) := by
  obtain ⟨hproper, -⟩ := hl.proper hpack
  have hjoin := (IsProper.join_words hproper).2
  have htokens : ∀ t ∈ words l.spoken, IsToken t := by
    intro t ht
    rcases IsProper.mem_words hproper ht with ⟨-, hword⟩ | ⟨c, hc, rfl⟩
    · exact Or.inl fun c hc => isLetter_of_isSmallLatin (hword c hc)
    · exact Or.inr (List.forall_mem_singleton.mpr (isLetter_of_sign hc))
  have hlatin : ∀ c ∈ signs, isSmallLatin c = false ∧ c ≠ ' ' := by decide
  apply nowhere_begins
  · intro p hp hspoken
    have hno := nowhere_join (b := b) (a := ' ' :: r) hspoken.isWord htokens (hlater p hp)
      (show isWordCharacter ' ' = false by decide)
    rwa [hjoin] at hno
  · intro c hc hmem hin
    have hfirst := hlater _ hmem
    rw [String.toList_ofList, firstWord, words_sign hc] at hfirst
    rcases hproper with hspoken | ⟨d, hd, hsign⟩
    · rcases hspoken.mem hin with rfl | hletter
      · exact (hlatin ' ' hc).2 rfl
      · exact Bool.false_ne_true ((hlatin c hc).1.symm.trans hletter)
    · rw [hsign, words_sign hd] at hfirst
      rw [hsign] at hin
      rw [List.mem_singleton.mp hin] at hfirst
      exact hfirst List.mem_cons_self

/-- An operator in front of a digit is what its list finds. -/
theorem matchAt?_operator {l : Link} (hl : l.IsOf pack) {d : Char} (hd : isDecimalDigit d = true)
    (r : List Char) : (pattern (pack.words l.list)).matchAt? (some ' ') (l.spoken ++ ' ' :: d :: r) =
      some ⟨l.spoken, []⟩ := by
  have hall : ∀ p ∈ pack.words l.list, IsProper p.toList := fun p hp => (hpack.words hp).1
  obtain ⟨hproper, c, hc, -⟩ := hl.proper hpack
  have hfits : Fits l.spoken (some ' ') l.spoken (' ' :: d :: r) :=
    fits_self hproper (by decide) (show isWordCharacter ' ' = false by decide)
  have hprefers : (pattern (pack.words l.list)).Prefers (some ' ') l.spoken (' ' :: d :: r) [] := by
    refine prefers_longest hall hl.word hfits fun e he hne hlength w a' hw => ?_
    obtain ⟨q, hq, rfl⟩ := (mem_entries_of_proper hall).mp he
    exact not_fits_longer (hall q hq) hproper hne hlength hd hw
  exact hprefers.matchAt?_eq (List.ne_nil_of_mem hc)

include hn hlinks

/-- One list of operators gives way to its sign. -/
theorem replaceWords_chain {list : WordList} {sign : Char} {done : List WordList}
    (hlist : (list, sign) ∈ operations)
    (hlater : ∀ l ∈ links, l.list ∉ done → l.list ≠ list →
      ∀ e ∈ pack.words list, firstWord e.toList ∉ words l.spoken) :
    rewrite? (pattern? (pack.words list)) (fun _ => [' ', sign, ' '])
        (chainText (Link.said done) n links) = chainText (Link.said (done ++ [list])) n links := by
  have hall : ∀ p ∈ pack.words list, IsProper p.toList := fun p hp => (hpack.words hp).1
  have hopens := opensAt_pattern hall
  rw [rewrite?_pattern?]
  apply rewrite_chainText hn fun l hl => (hlinks l hl).numeral
  · exact fun b r => hopens.matchAt?_eq_none not_begins_space
  · exact fun n hn b a => hopens.quiet (hn.nowhere_begins _)
  · intro l hl d r hd
    have hof := hlinks l hl
    by_cases hdone : l.list ∈ done
    · have hsaid : l.said done = [' ', l.sign, ' '] ∧ l.said (done ++ [list]) = [' ', l.sign, ' '] := by
        simp [Link.said, hdone]
      rw [hsaid.1, hsaid.2, rewriteAfter_quiet _ (hopens.quiet (nowhere_begins_sign hpack hof list))]
    · have hspoken : l.said done = l.spoken := if_neg hdone
      by_cases hown : l.list = list
      · have hsign : l.sign = sign := sign_unique _ hof.operation _ hlist hown
        have hsaid : l.said (done ++ [list]) = [' ', sign, ' '] := by simp [Link.said, hown, hsign]
        have hmatch := matchAt?_operator hpack hof hd r
        rw [hown] at hmatch
        rw [hspoken, hsaid, rewriteAfter_found (m := ⟨l.spoken, []⟩) _ hmatch]
      · have hsaid : l.said (done ++ [list]) = l.spoken := by simp [Link.said, hown, hdone]
        have hno := nowhere_begins_operator (b := some ' ') (r := d :: r) hpack hof
          (hlater l hl hdone hown)
        rw [hspoken, hsaid, rewriteAfter_quiet _ (hopens.quiet hno)]

/-! ## All passes -/

variable (hapart : pack.operatorSpelling.IsApart)

include hapart

omit hpack hn in
/-- An operator of one list has no word that an operator of an earlier list begins with. -/
theorem firstWord_not_mem {earlier later : List (WordList × Char)} {o : WordList × Char}
    (hsplit : operations = earlier ++ o :: later) :
    ∀ l ∈ links, l.list ∉ earlier.map (·.1) → l.list ≠ o.1 →
      ∀ e ∈ pack.words o.1, firstWord e.toList ∉ words l.spoken := by
  intro l hl hdone hown e he
  have hpairs := hapart.earlier
  have hoperation := (hlinks l hl).operation
  rw [LanguagePack.operatorSpelling, hsplit, List.map_append, List.map_cons, List.pairwise_append,
    List.pairwise_cons] at hpairs
  have hlater : (l.list, l.sign) ∈ later := by
    rw [hsplit] at hoperation
    rcases List.mem_append.mp hoperation with h | h
    · exact absurd (List.mem_map_of_mem h) hdone
    · rcases List.mem_cons.mp h with h | h
      · exact absurd (congrArg (·.1) h) hown
      · exact h
  exact hpairs.2.1.1 _ (List.mem_map_of_mem hlater) _ (List.mem_map_of_mem he) _
    (List.mem_map_of_mem (hlinks l hl).word)

/-- All lists of operators give way to their signs. -/
theorem foldl_operations (earlier later : List (WordList × Char))
    (hsplit : operations = earlier ++ later) :
    later.foldl (fun text o => rewrite? (pattern? (pack.words o.1)) (fun _ => [' ', o.2, ' ']) text)
        (chainText (Link.said (earlier.map (·.1))) n links) =
      chainText (fun l => [' ', l.sign, ' ']) n links := by
  induction later generalizing earlier with
  | nil =>
    have hall : ∀ l ∈ links, l.said (earlier.map (·.1)) = [' ', l.sign, ' '] := by
      intro l hl
      have hoperation := (hlinks l hl).operation
      rw [hsplit, List.append_nil] at hoperation
      exact if_pos (List.mem_map_of_mem hoperation)
    show chainText _ n links = _
    rw [chainText, chainText, linksText, linksText, List.flatMap_congr]
    intro l hl
    rw [hall l hl]
  | cons o later ih =>
    have hmem : (o.1, o.2) ∈ operations := by
      rw [hsplit]
      exact List.mem_append_right _ List.mem_cons_self
    have hpass : rewrite? (pattern? (pack.words o.1)) (fun _ => [' ', o.2, ' '])
        (chainText (Link.said (earlier.map (·.1))) n links) =
        chainText (Link.said (earlier.map (·.1) ++ [o.1])) n links :=
      replaceWords_chain hpack hn hlinks hmem (firstWord_not_mem hlinks hapart hsplit)
    have hrest := ih (earlier ++ [o]) (by rw [hsplit]; simp)
    rw [List.map_append] at hrest
    rw [List.foldl_cons, hpass]
    exact hrest

/-! ## Phrases around two operands -/

/-- A number ends here and a gap follows, behind which one of the phrases begins. -/
def LinkedAt (phrases : List String) (before : Option Char) (rest : List Char) : Prop :=
  before.any isDecimalDigit = true ∧ ∃ g u, rest = g ++ u ∧ g ≠ [] ∧
    (∀ c ∈ g, isBlank c = true) ∧ Begins phrases (behind before g) u

omit hpack hn hlinks hapart in
theorem LinkedAt.blank {phrases : List String} {b : Option Char} {r : List Char}
    (h : LinkedAt phrases b r) : r.head?.any isBlank = true := by
  obtain ⟨-, g, u, rfl, hne, hblank, -⟩ := h
  obtain ⟨c, g, rfl⟩ := List.exists_cons_of_ne_nil hne
  exact hblank c List.mem_cons_self

omit hpack hn hlinks hapart

/-- An operand ends in a digit, whatever marks it may have. -/
theorem digit_behind_operand {f : Char → Bool} {b : Option Char} {w a : List Char}
    {k : List (Nat × List Char)}
    (h : (inOrder [atLeastOne digit, optional (inOrder [Pattern.char f, atLeastOne digit])]).Reads
      b w a k) :
    (behind b w).any isDecimalDigit = true := by
  have hlast {b : Option Char} {ds : List Char} (hds : IsDigits ds) :
      (behind b ds).any isDecimalDigit = true := any_behind_of_ne_nil b hds.1 hds.2
  obtain ⟨ds, v, _, _, rfl, -, hds, hrow⟩ := reads_inOrder_cons.mp h
  rcases reads_optional.mp hrow with hpart | ⟨rfl, -⟩
  · obtain ⟨m, es, _, _, rfl, -, -, hes⟩ := reads_inOrder_cons.mp hpart
    rw [behind_append, behind_append]
    exact hlast (reads_digits.mp hes).1
  · rw [List.append_nil]
    exact hlast (reads_digits.mp hds).1

/-- A phrase around two operands has its connective behind a number. -/
theorem needsAt_linked {percent : Pattern} {template : PhraseTemplate}
    (hproper : ∀ p ∈ template.connectives, IsProper p.toList) (q : Pattern)
    (hq : OperatorWord.phrasePattern? percent template = some q) :
    q.NeedsAt (LinkedAt template.connectives) := by
  unfold OperatorWord.phrasePattern? at hq
  simp only [bind, Option.bind_eq_some_iff, pure, Option.some.injEq] at hq
  obtain ⟨verb, -, connective, hconnective, rfl⟩ := hq
  obtain rfl := eq_pattern_of_pattern? hconnective
  intro b w a k hr
  obtain ⟨v, w1, _, _, rfl, -, -, hrow1⟩ := reads_inOrder_cons.mp hr
  obtain ⟨g, w2, _, _, rfl, -, -, hrow2⟩ := reads_inOrder_cons.mp hrow1
  obtain ⟨x, w3, _, _, rfl, -, hx, hrow3⟩ := reads_inOrder_cons.mp hrow2
  obtain ⟨i, w4, _, _, rfl, -, hi, hrow4⟩ := reads_inOrder_cons.mp hrow3
  obtain ⟨c, w5, _, _, rfl, -, hc, -⟩ := reads_inOrder_cons.mp hrow4
  obtain ⟨hne, hblank, -⟩ := reads_gap.mp hi
  have hbegins := (begins_of_finds hproper (reads_pattern.mp hc).2).1
  refine ⟨v ++ (g ++ x), i ++ (c ++ w5), by simp, by simp [hne], ?_, ?_⟩
  · rw [behind_append, behind_append]
    exact digit_behind_operand ((reads_group rfl).mp hx).1
  · refine ⟨i, c ++ w5 ++ a, by simp, hne, hblank, ?_⟩
    rw [behind_append, behind_append, List.append_assoc]
    exact hbegins

include hpack

/-- Behind a space and in an operator no number ends. -/
theorem not_digit_behind {l : Link} (hl : l.IsOf pack) {v : List Char}
    (hv : ∀ c ∈ v, c ∈ l.spoken) : ¬ (behind (some ' ') v).any isDecimalDigit = true := by
  have hsigns : ∀ c ∈ signs, isDecimalDigit c = false := by decide +kernel
  intro hbehind
  by_cases hne : v = []
  · rw [hne] at hbehind
    exact absurd hbehind (by show ¬ isDecimalDigit ' ' = true; decide)
  · rw [behind_of_ne_nil _ hne] at hbehind
    rcases IsProper.mem (hl.proper hpack).1 (hv _ (List.getLast_mem hne)) with
      hspace | hletter | hsign
    · rw [Option.any_some, hspace] at hbehind
      exact absurd hbehind (by decide)
    · have hdigit := isLetter_of_isDecimalDigit hbehind
      rw [isLetter_of_isSmallLatin hletter] at hdigit
      exact Bool.noConfusion hdigit
    · exact Bool.false_ne_true ((hsigns _ hsign).symm.trans hbehind)

variable {phrases : List String}

/-- Behind the space in front of an operator begins no phrase with another first word. -/
theorem not_linkedAt_operator {l : Link} (hl : l.IsOf pack)
    (hother : ∀ p ∈ phrases, IsSpoken p.toList ∧ firstWord p.toList ≠ firstWord l.spoken)
    {b : Option Char} {r : List Char} : ¬ LinkedAt phrases b (' ' :: (l.spoken ++ ' ' :: r)) := by
  have hspace : isWordCharacter ' ' = false := by decide
  obtain ⟨hproper, -⟩ := hl.proper hpack
  rintro ⟨-, g, u, hrow, hne, hblank, p, hp, hbegins⟩
  obtain ⟨c, g, rfl⟩ := List.exists_cons_of_ne_nil hne
  obtain ⟨rfl, hrest⟩ := List.cons.inj hrow
  cases g with
  | cons d g =>
    have hhead := IsProper.head_solid (a := ' ' :: r) hproper
    rw [hrest] at hhead
    exact Bool.false_ne_true (hhead.symm.trans (hblank d (by simp)))
  | nil =>
    obtain rfl : _ = u := hrest
    obtain ⟨hspoken, hne⟩ := hother p hp
    rcases hbegins with ⟨-, hword⟩ | ⟨c, hc, hsign, -⟩
    · rcases hproper with hown | ⟨d, hd, hsign⟩
      · have hfits : Fits l.spoken (some ' ') l.spoken (' ' :: r) :=
          fits_self (Or.inl hown) hspace hspace
        exact hne (hword.unique hspoken.isWord hown.isWord (word_of_fits hown hfits))
      · have hletter := hword.head hspoken.isWord
        rw [hsign] at hletter
        exact Bool.false_ne_true ((isLetter_of_sign hd).symm.trans hletter)
    · exact hspoken.ne_sign hc hsign

include hn hlinks

/-- Behind the numbers of a chain stand its operators, so that no other phrase begins there. -/
theorem nowhere_linked
    (hother : ∀ p ∈ phrases, IsSpoken p.toList ∧ ∀ l ∈ links,
      firstWord p.toList ≠ firstWord l.spoken) {b : Option Char} :
    Nowhere (LinkedAt phrases) b (chainText Link.spoken n links) [] := by
  have hsolid {n : List Char} (hn : IsNumeral n) {b : Option Char} {a : List Char} :
      Nowhere (LinkedAt phrases) b n a :=
    (nowhere_head hn.solid).mono fun _ _ => LinkedAt.blank
  induction links generalizing n b with
  | nil =>
    rw [chainText, linksText, List.flatMap_nil, List.append_nil]
    exact hsolid hn
  | cons l links ih =>
    obtain ⟨hl, hrest⟩ := List.forall_mem_cons.mp hlinks
    have hfirst := not_linkedAt_operator (b := behind b n)
      (r := l.numeral ++ linksText Link.spoken links) hpack hl fun p hp =>
        ⟨(hother p hp).1, (hother p hp).2 l List.mem_cons_self⟩
    have hlater := ih hl.numeral hrest (b := some ' ') fun p hp =>
      ⟨(hother p hp).1, fun k hk => (hother p hp).2 k (List.mem_cons_of_mem l hk)⟩
    have hoperator : Nowhere (LinkedAt phrases) (some ' ') l.spoken
        (' ' :: (l.numeral ++ linksText Link.spoken links ++ [])) := by
      intro v c w hv h
      exact not_digit_behind hpack hl (fun d hd => hv ▸ List.mem_append_left _ hd) h.1
    rw [chainText, linksText_cons, nowhere_append, nowhere_cons, nowhere_append, nowhere_cons]
    exact ⟨hsolid hn, by simpa using hfirst, hoperator,
      fun h => not_digit_behind hpack hl (fun _ => id) h.1, hlater⟩

include hapart

/-- No phrase around two operands is found in a chain. -/
theorem phrase_chain (kind : PhraseKind) :
    rewrite? ((OperatorWord.Patterns.ofPack pack).phrase kind) (OperatorWord.rewritePhrase kind)
      (chainText Link.spoken n links) = chainText Link.spoken n links := by
  have hkind : kind ∈ PhraseKind.all := by cases kind <;> decide
  have hpair : (((pack.phrases kind).verbs.map String.toList),
      ((pack.phrases kind).connectives.map String.toList)) ∈
      pack.operatorSpelling.verbs.zip pack.operatorSpelling.links := by
    rw [LanguagePack.operatorSpelling, List.zip_map', List.mem_map]
    exact ⟨kind, hkind, rfl⟩
  rcases hapart.phrase _ hpair with hverbs | hlinked
  · have hno : Nowhere (FoundAt (pack.phrases kind).verbs) none (join [' '] (chainTokens n links))
        [] := nowhere_foreign hpack hn hlinks fun p hp => hverbs _ (List.mem_map_of_mem hp)
    rw [← chainText_spoken hpack hlinks] at hno
    exact rewrite?_eq_self (needsAt_operatorPhrase (Or.inl (needsAt_found _))) _ hno
  · have hno : Nowhere (LinkedAt (pack.phrases kind).connectives) none
        (chainText Link.spoken n links) [] := by
      apply nowhere_linked hpack hn hlinks
      intro p hp
      obtain ⟨hspoken, hne⟩ := hlinked _ (List.mem_map_of_mem hp)
      refine ⟨hspoken, fun l hl hsame => hne ?_⟩
      rw [hsame]
      exact List.mem_map_of_mem (hlinks l hl).mem_operators
    exact rewrite?_eq_self (needsAt_linked fun p hp => (hpack.template (Or.inr hp)).1) _ hno

end Words

/-! ## The expression that is left -/

section Places

variable {say : Link → List Char} {n : List Char} {links : List Link} (hn : IsNumeral n)
  (hlinks : ∀ l ∈ links, IsNumeral l.numeral)

include hn hlinks

/-- What holds of the characters of numerals and operators holds of those of a chain. -/
theorem forall_mem_chainText {P : Char → Prop} (hdigit : ∀ c, isDecimalDigit c = true → P c)
    (hother : ∀ c ∈ [' ', '.'], P c) (hsay : ∀ l ∈ links, ∀ c ∈ say l, P c) :
    ∀ c ∈ chainText say n links, P c := by
  have hnumeral {n : List Char} (hn : IsNumeral n) {c : Char} (hc : c ∈ n) : P c := by
    rcases hn.mem hc with h | rfl
    · exact hdigit c h
    · exact hother '.' (by decide)
  intro c hc
  rcases List.mem_append.mp hc with hc | hc
  · exact hnumeral hn hc
  · obtain ⟨l, hl, hc⟩ := List.mem_flatMap.mp hc
    simp only [List.mem_cons, List.mem_append] at hc
    rcases hc with rfl | hc | rfl | hc
    · exact hother ' ' (by decide)
    · exact hsay l hl c hc
    · exact hother ' ' (by decide)
    · exact hnumeral (hlinks l hl) hc

/-- A place that is neither a space nor in a numeral or an operator is not in a chain. -/
theorem nowhere_chainText {Q : Option Char → List Char → Prop}
    (hspace : ∀ b r, ¬ Q b (' ' :: r)) (hnumeral : ∀ n, IsNumeral n → ∀ b a, Nowhere Q b n a)
    (hsay : ∀ l ∈ links, ∀ b d r, isDecimalDigit d = true → Nowhere Q b (say l) (' ' :: d :: r))
    {b : Option Char} : Nowhere Q b (chainText say n links) [] := by
  induction links generalizing n b with
  | nil =>
    rw [chainText, linksText, List.flatMap_nil, List.append_nil]
    exact hnumeral n hn b []
  | cons l links ih =>
    obtain ⟨hl, hrest⟩ := List.forall_mem_cons.mp hlinks
    obtain ⟨hown, hothers⟩ := List.forall_mem_cons.mp hsay
    obtain ⟨d, ds, hd, hdigit⟩ := hl.cons
    have hlater := ih hl hrest hothers (b := some ' ')
    have hoperator := hown (some ' ') d (ds ++ linksText say links) hdigit
    rw [← List.cons_append, ← hd] at hoperator
    rw [chainText, linksText_cons, nowhere_append, nowhere_cons, nowhere_append, nowhere_cons]
    exact ⟨hnumeral n hn _ _, hspace _ _, by simpa using hoperator, hspace _ _, hlater⟩

end Places

section Cleanup

variable {n : List Char} {links : List Link} (hn : IsNumeral n)
  (hnumerals : ∀ l ∈ links, IsNumeral l.numeral)
  (hsigns : ∀ l ∈ links, l.sign ∈ ['+', '-', '*', '/'])

include hn hnumerals hsigns

/-- The words of a chain with gaps around its signs. -/
theorem words_signChain : words (chainText (fun l => [' ', l.sign, ' ']) n links) =
    n :: links.flatMap fun l => [[l.sign]] ++ [l.numeral] := by
  have hblank : ∀ c ∈ ['+', '-', '*', '/'], isBlank c = false := by decide
  induction links generalizing n with
  | nil =>
    rw [chainText, linksText, List.flatMap_nil, List.append_nil]
    exact words_of_solid hn.ne_nil hn.solid
  | cons l links ih =>
    obtain ⟨hl, hrest⟩ := List.forall_mem_cons.mp hnumerals
    obtain ⟨hsign, hothers⟩ := List.forall_mem_cons.mp hsigns
    have hlater := ih hl hrest hothers
    have hsolid : ∀ c ∈ [l.sign], isBlank c = false :=
      List.forall_mem_singleton.mpr (hblank _ hsign)
    rw [chainText, linksText_cons, words_append_space hn.ne_nil hn.solid]
    show n :: words (' ' :: ([l.sign] ++ ' ' :: ' ' :: chainText _ l.numeral links)) = _
    rw [words_space, words_append_space (by simp) hsolid, words_space, hlater]
    simp

omit hn hnumerals in
/-- What holds of the signs and of spaces holds of the signs with gaps around. -/
theorem forall_mem_sign {P : Char → Prop} (h : ∀ c ∈ [' ', '+', '-', '*', '/'], P c) :
    ∀ l ∈ links, ∀ c ∈ [' ', l.sign, ' '], P c := by
  intro l hl
  have hspace := h ' ' (by decide)
  have hsign := h l.sign (List.mem_cons_of_mem _ (hsigns l hl))
  simp [hspace, hsign]

/-- No period of such a chain ends a sentence. -/
theorem nowhere_stop_signChain :
    Nowhere Expression.StopAt none (chainText (fun l => [' ', l.sign, ' ']) n links) [] := by
  refine nowhere_chainText hn hnumerals (fun b r h => ?_) (fun n hn b a => ?_) fun l hl b d r hd => ?_
  · exact absurd h.head (by simp)
  · exact hn.nowhere_exposed.mono fun _ _ => ExposedPointAt.of_stop
  · refine nowhere_of_not_mem (fun _ _ => Expression.StopAt.head) fun hmem => ?_
    exact forall_mem_sign hsigns (P := (· ≠ '.')) (by decide) l hl '.' hmem rfl

omit hsigns in
/-- No two plus signs of such a chain stand next to each other. -/
theorem nowhere_doublePlus_signChain :
    Nowhere Expression.DoublePlusAt none (chainText (fun l => [' ', l.sign, ' ']) n links) [] := by
  refine nowhere_chainText hn hnumerals (fun b r h => ?_) (fun n hn b a => ?_) fun l hl b d r hd => ?_
  · exact absurd h.head (by simp)
  · refine nowhere_of_not_mem (fun _ _ => Expression.DoublePlusAt.head) fun hmem => ?_
    rcases hn.mem hmem with h | h
    · exact absurd h (by decide)
    · exact absurd h (by decide)
  · have hspace {b : Option Char} {r : List Char} : ¬ Expression.DoublePlusAt b (' ' :: r) :=
      fun h => absurd h.head (by simp)
    simp only [nowhere_cons]
    refine ⟨hspace, ?_, hspace, nowhere_nil _ _ _⟩
    -- behind a sign and its gap stands a digit
    rintro ⟨u, hu, hplus⟩
    obtain ⟨-, rfl⟩ := List.cons.inj hu
    have hgap : isBlank ' ' = true := by decide
    obtain rfl : d = '+' := by simpa [hgap, isBlank_of_isDecimalDigit hd] using hplus
    exact absurd hd (by decide)

/-- Of a chain with gaps around its signs only the gaps are changed. -/
theorem canonicalize_signChain :
    Expression.canonicalize (chainText (fun l => [' ', l.sign, ' ']) n links) =
      chainText (fun l => [l.sign]) n links := by
  have hkept : ∀ c ∈ chainText (fun l => [' ', l.sign, ' ']) n links,
      Expression.isKept c = true :=
    forall_mem_chainText hn hnumerals (P := (Expression.isKept · = true))
      (fun _ => PercentPhrase.isKept_of_isDecimalDigit) (by decide)
      (forall_mem_sign hsigns (by decide))
  have hroot : Expression.showRoots (chainText (fun l => [' ', l.sign, ' ']) n links) =
      chainText (fun l => [' ', l.sign, ' ']) n links := by
    apply Expression.showRoots_eq_self
    intro hmem
    refine forall_mem_chainText hn hnumerals (P := (· ≠ Expression.rootSign)) ?_ (by decide)
      (forall_mem_sign hsigns (by decide)) _ hmem rfl
    rintro c hc rfl
    exact absurd hc (by decide +kernel)
  have hplus := nowhere_doublePlus_signChain hn hnumerals
  have hcanonical := Expression.canonicalize_eq_collapse hkept
    (nowhere_stop_signChain hn hnumerals hsigns) (by rwa [hroot])
  rw [hroot] at hcanonical
  rw [hcanonical, collapse, words_signChain hn hnumerals hsigns]
  exact (chainText_eq_join (fun l => [[l.sign]]) fun l _ => ⟨by simp, rfl⟩).symm

end Cleanup

/-! ## Chains from end to end -/

section Chains

variable {pack : LanguagePack} {n : List Char} {links : List Link} (hn : IsNumeral n)
  (hlinks : ∀ l ∈ links, l.IsOf pack)

theorem mem_signs_of_operation {o : WordList × Char} (h : o ∈ operations) :
    o.2 ∈ ['+', '-', '*', '/'] :=
  List.mem_map_of_mem (f := (·.2)) h

include hn hlinks

theorem silent_signChain (say : Link → List Char)
    (hsay : ∀ l ∈ links, ∀ c ∈ say l, c ∈ [' ', '+', '-', '*', '/']) :
    Silent (chainText say n links) ∧ '%' ∉ chainText say n links := by
  have hnumerals : ∀ l ∈ links, IsNumeral l.numeral := fun l hl => (hlinks l hl).numeral
  have hplain : ∀ c ∈ [' ', '+', '-', '*', '/'], isVerbal c = false ∧ c ≠ '%' := by decide
  have hall : ∀ c ∈ chainText say n links, isVerbal c = false ∧ c ≠ '%' := by
    refine forall_mem_chainText hn hnumerals (P := fun c => isVerbal c = false ∧ c ≠ '%') ?_
      (by decide) fun l hl c hc => hplain c (hsay l hl c hc)
    intro c hc
    refine ⟨isVerbal_of_isDecimalDigit hc, ?_⟩
    rintro rfl
    exact absurd hc (by decide)
  exact ⟨fun c hc => (hall c hc).1, fun hc => (hall '%' hc).2 rfl⟩

variable (hpack : pack.IsOrdinary) (hapart : pack.operatorSpelling.IsApart) {lexicon : Lexicon}
  (hof : lexicon.IsOf pack)

include hpack hapart hof

/-- The words of a chain give way to signs. -/
theorem operators_chain :
    OperatorWord.rewrite lexicon.operators (chainText Link.spoken n links) =
      chainText (fun l => [' ', l.sign, ' ']) n links := by
  have hsplit : OperatorWord.signs =
      operations.map (fun o => (o.1, String.ofList [' ', o.2, ' '])) ++
        [(.percentOf, " / 100 * "), (.percentage, " % "), (.power, " ^ "), (.squared, " ^ 2 "),
          (.squareRoot, " sqrt "), (.openParen, " ( "), (.closeParen, " ) ")] := rfl
  have hphrases : PhraseKind.all.foldl (fun text kind =>
      rewrite? ((OperatorWord.Patterns.ofPack pack).phrase kind)
        (OperatorWord.rewritePhrase kind) text) (chainText Link.spoken n links) =
      chainText Link.spoken n links :=
    List.foldl_fixed' (phrase_chain hpack hn hlinks hapart) _
  have hword : ∀ o ∈ operations, o.1 ≠ .percentOf := by decide
  have hpass : ∀ text, ∀ o ∈ operations,
      OperatorWord.replaceWords (OperatorWord.Patterns.ofPack pack) text
        (o.1, String.ofList [' ', o.2, ' ']) =
      rewrite? (pattern? (pack.words o.1)) (fun _ => [' ', o.2, ' ']) text := by
    intro text o ho
    rw [OperatorWord.replaceWords, if_neg fun h => hword o ho h.1, String.toList_ofList]
    rfl
  -- one pass for each operation turns its words into its sign; the passes behind find no words
  have hsigned := foldl_operations hpack hn hlinks hapart [] operations rfl
  have hspoken : chainText (Link.said []) n links = chainText Link.spoken n links := rfl
  have hsilent : Silent (chainText (fun l => [' ', l.sign, ' ']) n links) := by
    refine (silent_signChain hn hlinks _ fun l hl => ?_).1
    have hsign := List.mem_cons_of_mem ' ' (mem_signs_of_operation (hlinks l hl).operation)
    intro c hc
    simp only [List.mem_cons, List.not_mem_nil, or_false] at hc
    rcases hc with rfl | rfl | rfl
    · exact List.mem_cons_self
    · exact hsign
    · exact List.mem_cons_self
  rw [List.map_nil, hspoken] at hsigned
  rw [hof.operators, OperatorWord.rewrite, hphrases, hsplit, List.foldl_append, List.foldl_map,
    List.foldl_ext _ _ _ hpass, hsigned]
  exact List.foldl_fixed' (replaceWords_of_silent hpack hsilent) _

/-- What the stages make of a chain. -/
theorem rewriteAll_chain :
    Stage.rewriteAll Stage.all lexicon (chainText Link.spoken n links) =
      chainText (fun l => [l.sign]) n links := by
  have hsilent := silent_signChain hn hlinks (fun l => [l.sign]) fun l hl =>
    List.forall_mem_singleton.mpr
      (List.mem_cons_of_mem _ (mem_signs_of_operation (hlinks l hl).operation))
  have hearlier := rewriteAll_spokenChain hpack hn hlinks hapart hof
  have hall : Stage.all =
      [.numberWords, .scaleNumbers, .fractions, .numeralMarks, .percentages] ++
        [.operators, .cleanup] := rfl
  rw [← chainText_spoken hpack hlinks] at hearlier
  rw [hall, Stage.rewriteAll_append, hearlier]
  show Expression.rewrite lexicon.percent (OperatorWord.rewrite lexicon.operators _) = _
  rw [operators_chain hn hlinks hpack hapart hof, Expression.rewrite,
    canonicalize_signChain hn (fun l hl => (hlinks l hl).numeral)
      (fun l hl => mem_signs_of_operation (hlinks l hl).operation), hof.percent]
  exact PercentPhrase.rewritePlusMinus_of_silent hpack hsilent.1 hsilent.2

omit hlinks in
/-- The stages behind the scaled numbers leave a numeral as it is. -/
theorem rewriteAll_numeral :
    Stage.rewriteAll [.fractions, .numeralMarks, .percentages, .operators, .cleanup] lexicon n =
      n := by
  have hnone : ∀ l ∈ ([] : List Link), l.IsOf pack := by simp
  have hsilent := (silent_signChain hn hnone Link.spoken (by simp)).1
  have hchain := rewriteAll_chain hn hnone hpack hapart hof
  have htext (say : Link → List Char) : chainText say n [] = n := by simp [chainText, linksText]
  have hall : Stage.all = [.numberWords, .scaleNumbers] ++
      [.fractions, .numeralMarks, .percentages, .operators, .cleanup] := rfl
  rw [htext] at hsilent
  have hfirst : Stage.rewriteAll [.numberWords, .scaleNumbers] lexicon n = n := by
    simp only [Stage.rewriteAll, List.foldl_cons, List.foldl_nil, Stage.rewrite]
    rw [numberWords_of_silent hpack hof hsilent, hof.scaledSum, scaleNumbers_of_silent _ _ hsilent]
  rwa [htext, htext, hall, Stage.rewriteAll_append, hfirst] at hchain

end Chains

/-- A chain of numerals with words for the four operations between them comes to the same numerals
with the signs of the operations, in every built-in language. -/
theorem normalize_chain {pack : LanguagePack} (hpack : pack ∈ builtinPacks) {n : List Char}
    (hn : IsNumeral n) {links : List Link} (hlinks : ∀ l ∈ links, l.IsOf pack)
    (hlength : (chainText Link.spoken n links).length ≤ 1000) :
    (Lexicon.ofPack pack).map (·.normalize (chainText Link.spoken n links)) =
      .ok (chainText (fun l => [l.sign]) n links) := by
  have hordinary := isOrdinary_of_mem hpack
  obtain ⟨lexicon, hlexicon, hof⟩ := Lexicon.exists_of_mem hpack
  have hshort : Transcript.isTooLong (chainText Link.spoken n links) = false := by
    rw [Transcript.isTooLong, decide_eq_false_iff_not]
    exact Nat.not_lt.mpr hlength
  have hprepare : Transcript.prepare (chainText Link.spoken n links) =
      chainText Link.spoken n links := by
    rw [chainText_spoken hordinary hlinks]
    exact Transcript.prepare_of_plainSpoken fun c hc =>
      Or.inl (isPlainSpoken_of_mem_chain hordinary hn hlinks c hc)
  rw [hlexicon]
  show Except.ok (lexicon.normalize _) = _
  rw [Lexicon.normalize, hshort, if_neg Bool.false_ne_true, hprepare,
    rewriteAll_chain hn hlinks hordinary (operatorsApart_of_mem hpack) hof]

/-- `10 plus 2.5 divided by 4` -/
theorem normalize_chain_english :
    english ∈ builtinPacks ∧ IsNumeral "10".toList ∧
      (∀ l ∈ [Link.mk .addition '+' "plus" "2.5".toList, ⟨.division, '/', "divided by", "4".toList⟩],
        l.IsOf english) ∧
      "10 plus 2.5 divided by 4".length ≤ 1000 ∧
      (Lexicon.ofPack english).map (·.normalize "10 plus 2.5 divided by 4".toList) =
        .ok "10 + 2.5 / 4".toList := by
  have hdigits {ds : List Char} (hne : ds ≠ []) (h : ∀ c ∈ ds, isDecimalDigit c = true) :
      IsDigits ds := ⟨hne, h⟩
  have hten : IsNumeral "10".toList := .whole (hdigits (by decide) (by decide))
  have hfour : IsNumeral "4".toList := .whole (hdigits (by decide) (by decide))
  have htwo : IsDigits ['2'] := hdigits (by decide) (by decide)
  have hfive : IsDigits ['5'] := hdigits (by decide) (by decide)
  have hhalf : IsNumeral "2.5".toList := .decimal htwo hfive
  have hplus : Link.IsOf english ⟨.addition, '+', "plus", "2.5".toList⟩ :=
    ⟨by decide, by simp [english, englishWords], hhalf⟩
  have hdivided : Link.IsOf english ⟨.division, '/', "divided by", "4".toList⟩ :=
    ⟨by decide, by simp [english, englishWords], hfour⟩
  have hlinks : ∀ l ∈ [Link.mk .addition '+' "plus" "2.5".toList,
      ⟨.division, '/', "divided by", "4".toList⟩], l.IsOf english := by
    intro l hl
    simp only [List.mem_cons, List.not_mem_nil, or_false] at hl
    rcases hl with rfl | rfl
    · exact hplus
    · exact hdivided
  have hspoken : chainText Link.spoken "10".toList [⟨.addition, '+', "plus", "2.5".toList⟩,
      ⟨.division, '/', "divided by", "4".toList⟩] = "10 plus 2.5 divided by 4".toList := by decide
  have h := normalize_chain List.mem_cons_self hten hlinks (by decide)
  rw [hspoken] at h
  exact ⟨List.mem_cons_self, hten, hlinks, by decide, h⟩

end CalcSpeech
