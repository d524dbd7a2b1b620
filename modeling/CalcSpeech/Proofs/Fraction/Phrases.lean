import CalcSpeech.Proofs.Fraction.Words
import CalcSpeech.Proofs.Percent.Forms
import CalcSpeech.Proofs.Point.Fractions

/-!
# How rows of fractions are read

A fraction of a quantity takes the number behind its word for `of`. Where that number is the count
of another fraction, what is left of the other one stays behind the formula, and reading goes on
behind the next word for `of` (`reading`). The fractions with a stroke are rewritten in one pass
(`rewriteAfter_numeric`) and those with a word in a second one (`rewriteAfter_spoken`), so the stage
as a whole comes to the reading (`fractions_phrase`).
-/

namespace CalcSpeech.FractionPhrase

open Unicode Pattern Vocabulary Text

/-! ## Rows of fractions -/

/-- A fraction in a phrase: two numbers with a stroke between them, or a number of the parts that a
word stands for. -/
inductive Share where
  | written (count parts : List Char)
  | said (count : List Char) (word : String) (parts : Nat)

namespace Share

/-- How many parts. -/
def count : Share → List Char
  | written m _ => m
  | said m _ _ => m

/-- Of how many parts, in digits. -/
def parts : Share → List Char
  | written _ n => n
  | said _ _ d => Nat.toDigits 10 d

/-- What stands behind the count. -/
def behind : Share → List Char
  | written _ n => '/' :: n
  | said _ w _ => ' ' :: w.toList

/-- What stands between the count and what the fraction is of, with `o` for `of`. -/
def link (f : Share) (o : List Char) : List Char := f.behind ++ ' ' :: (o ++ [' '])

/-- The tokens of a fraction with a text in the place of its count. -/
def tokens : Share → List Char → List (List Char)
  | written _ n, y => [y ++ '/' :: n]
  | said _ w _, y => [y, w.toList]

/-- The numbers are digits, and the word is listed with its number of parts. -/
def IsListed : Share → Prop
  | written m n => IsPlainDigits m ∧ IsPlainDigits n
  | said m w d => IsPlainDigits m ∧ (w, d) ∈ fractionWords

end Share

variable (o q : List Char)

/-- Fractions, each of the next and the last of the quantity `q`, with `o` for `of`. -/
def phrase : List Share → List (List Char)
  | [] => [q]
  | f :: fs => f.tokens f.count ++ o :: phrase fs

/-- What the fractions with a stroke come to. -/
def struck : List Share → List (List Char)
  | [] => [q]
  | .said m w d :: fs => (Share.said m w d).tokens m ++ o :: struck fs
  | [.written m n] => [formula m n q]
  | .written m n :: g :: fs => g.tokens (formula m n g.count) ++ o :: struck fs

/-- What all the fractions come to. A fraction with a word leaves the numbers of one with a stroke
to that, since it is looked for later. -/
def reading : List Share → List (List Char)
  | [] => [q]
  | [f] => [formula f.count f.parts q]
  | .said m w d :: .written k n :: fs =>
    (Share.said m w d).tokens m ++ o :: reading (.written k n :: fs)
  | f :: g :: fs => g.tokens (formula f.count f.parts g.count) ++ o :: reading fs

variable {o q}

theorem Share.tokens_ne_nil (f : Share) (y : List Char) (ts : List (List Char)) :
    f.tokens y ++ ts ≠ [] := by
  cases f <;> simp [Share.tokens]

theorem phrase_ne_nil (fs : List Share) : phrase o q fs ≠ [] := by
  cases fs with
  | nil => exact List.cons_ne_nil _ _
  | cons f fs => exact f.tokens_ne_nil _ _

theorem struck_ne_nil (fs : List Share) : struck o q fs ≠ [] := by
  unfold struck
  split
  · exact List.cons_ne_nil _ _
  · exact Share.tokens_ne_nil _ _ _
  · exact List.cons_ne_nil _ _
  · exact Share.tokens_ne_nil _ _ _

theorem reading_ne_nil (fs : List Share) : reading o q fs ≠ [] := by
  unfold reading
  split
  · exact List.cons_ne_nil _ _
  · exact List.cons_ne_nil _ _
  · exact Share.tokens_ne_nil _ _ _
  · exact Share.tokens_ne_nil _ _ _

theorem Share.join_tokens (f : Share) (y : List Char) {ts : List (List Char)} (hts : ts ≠ []) :
    join [' '] (f.tokens y ++ o :: ts) = y ++ (f.link o ++ join [' '] ts) := by
  obtain ⟨t, ts, rfl⟩ := List.exists_cons_of_ne_nil hts
  cases f <;> simp [Share.tokens, Share.link, Share.behind, join]

/-! ## Where a fraction with a word is read -/

/-- A stretch of characters that pass a test stands here, and behind it something of a kind. -/
def RunThen (f : Char → Bool) (Q : List Char → Prop) (text : List Char) : Prop :=
  ∃ u r, text = u ++ r ∧ u ≠ [] ∧ (∀ c ∈ u, f c = true) ∧ r.head?.any f = false ∧ Q r

section RunThen

variable {f g : Char → Bool} {Q : List Char → Prop} {u r : List Char}

/-- Whether a stretch leads to something of a kind depends on what stands behind it. -/
theorem RunThen.of_append (h : RunThen f Q (u ++ r)) (hu : ∀ c ∈ u, f c = true)
    (hr : r.head?.any f = false) : Q r := by
  obtain ⟨v, s, heq, -, hv, hs, hQ⟩ := h
  obtain ⟨-, rfl⟩ := eq_of_spans hu hv hr hs heq
  exact hQ

theorem RunThen.head (h : RunThen f Q r) : r.head?.any f = true := by
  obtain ⟨v, s, rfl, hne, hv, -⟩ := h
  obtain ⟨c, v, rfl⟩ := List.exists_cons_of_ne_nil hne
  exact hv c List.mem_cons_self

theorem RunThen.intro (hu : u ≠ [] ∧ ∀ c ∈ u, f c = true) (hr : r.head?.any f = false) (hQ : Q r) :
    RunThen f Q (u ++ r) :=
  ⟨u, r, rfl, hu.1, hu.2, hr, hQ⟩

/-- A stretch of one kind in front of one of another kind. -/
theorem RunThen.cons (h : RunThen g Q r) (hgf : ∀ c, g c = true → f c = false)
    (hu : u ≠ [] ∧ ∀ c ∈ u, f c = true) : RunThen f (RunThen g Q) (u ++ r) :=
  .intro hu (head_eq_false h.head hgf) h

end RunThen

/-- A word and another one, with gaps around them, and a digit behind them. -/
def QuantityAhead (text : List Char) : Prop :=
  RunThen isBlank (RunThen isLetter (RunThen isBlank (RunThen isLetter (RunThen isBlank
    fun r => r.head?.any isDecimalDigit = true)))) text

/-- What is read as one of some single words is a word. -/
theorem isWord_of_reads {phrases : List String}
    (hsingle : ∀ p ∈ phrases, IsSpoken p.toList ∧ words p.toList = [p.toList]) {b : Option Char}
    {w a : List Char} {k : List (Nat × List Char)} (h : (pattern phrases).Reads b w a k) :
    IsWord w := by
  obtain ⟨-, e, he, hfits⟩ := reads_pattern.mp h
  obtain ⟨p, hp, rfl⟩ :=
    (mem_entries_of_proper fun p hp => Or.inl (hsingle p hp).1).mp he
  obtain ⟨hspoken, hone⟩ := hsingle p hp
  have hword := hspoken.isWord
  rw [firstWord, hone] at hword
  have hsolid : ∀ c ∈ p.toList, c ≠ ' ' := by
    rintro _ hc rfl
    exact absurd (hword.2 _ hc) (by decide)
  rwa [eq_of_spells_solid hsolid hfits.spells]

theorem RunThen.word {Q : List Char → Prop} {x a : List Char}
    (h : RunThen isBlank (RunThen isLetter Q) (' ' :: (x ++ ' ' :: a))) (hx : IsWord x) :
    Q (' ' :: a) := by
  have hspace : ∀ c ∈ [' '], isBlank c = true := by decide
  have hsolid : (x ++ ' ' :: a).head?.any isBlank = false := by
    obtain ⟨c, x, rfl⟩ := List.exists_cons_of_ne_nil hx.1
    exact isBlank_of_isLetter (hx.2 c List.mem_cons_self)
  have hrest : RunThen isLetter Q (x ++ ' ' :: a) := RunThen.of_append (u := [' ']) h hspace hsolid
  exact hrest.of_append hx.2 (by show isLetter ' ' = false; decide)

/-- Behind one word no other one stands. -/
theorem not_quantity_word {x a : List Char} (hx : IsWord x) (ha : a.head?.any isBlank = false)
    (hletter : a.head?.any isLetter = false) : ¬ QuantityAhead (' ' :: (x ++ ' ' :: a)) := by
  intro h
  have hspace : ∀ c ∈ [' '], isBlank c = true := by decide
  have hrest := RunThen.of_append (u := [' ']) (h.word hx) hspace ha
  exact Bool.false_ne_true (hletter.symm.trans hrest.head)

/-- Behind two words no digit stands. -/
theorem not_quantity_words {x y a : List Char} (hx : IsWord x) (hy : IsWord y)
    (ha : a.head?.any isBlank = false) (hdigit : a.head?.any isDecimalDigit = false) :
    ¬ QuantityAhead (' ' :: (x ++ ' ' :: (y ++ ' ' :: a))) := by
  intro h
  have hspace : ∀ c ∈ [' '], isBlank c = true := by decide
  have hrest := RunThen.of_append (u := [' ']) (RunThen.word (h.word hx) hy) hspace ha
  exact Bool.false_ne_true (hdigit.symm.trans hrest)

theorem not_quantity_solid {a : List Char} (ha : a.head?.any isBlank = false) :
    ¬ QuantityAhead a :=
  fun h => Bool.false_ne_true (ha.symm.trans (RunThen.head h))

/-- Digits and such words stand wherever a fraction with a word is read. -/
theorem opensAt_spoken_of_single {phrases : List String}
    (hsingle : ∀ p ∈ phrases, IsSpoken p.toList ∧ words p.toList = [p.toList]) :
    (spoken (pattern phrases)).OpensAt (BehindDigits fun _ => QuantityAhead) := by
  intro b w a k h
  obtain ⟨n, g, x, i, o, j, r, rfl, hn, hg, hx, hi, -, ⟨b', ho⟩, hj, hr⟩ :=
    reads_spoken (kept_of_pattern phrases) h
  have hend : (r ++ a).head?.any isBlank = false :=
    head_eq_false hr fun _ hc => isBlank_of_isDecimalDigit hc
  have hquantity : QuantityAhead (g ++ (x ++ (i ++ (o ++ (j ++ (r ++ a)))))) :=
    ((((RunThen.intro hj hend hr).cons (fun _ => isLetter_of_isBlank)
      (isWord_of_reads hsingle ho)).cons (fun _ => isBlank_of_isLetter) hi).cons
      (fun _ => isLetter_of_isBlank) hx).cons (fun _ => isBlank_of_isLetter) hg
  refine ⟨n, _, ?_, hn, ?_, hquantity⟩
  · simp
  · exact head_eq_false hquantity.head fun _ => isDecimalDigit_of_isBlank

/-! ## The phrases as their patterns prefer them -/

section Patterns

variable {b : Option Char} {ds r : List Char} (hds : IsDigits ds)

include hds

theorem prefers_digits (hr : r.head?.any isDecimalDigit = false) :
    (atLeastOne digit).Prefers b ds r [] :=
  prefers_of_first fun _ _ hs => first_atLeastOne_char hds.1 hds.2 hr hs

/-- Digits that no mark follows are read as they are. -/
theorem prefers_marked (hr : EndsOperand r) : (marked digit).Prefers b ds r [] := by
  have hparts : (many (inOrder [mark, atLeastOne digit])).Prefers (behind b ds) [] r [] := by
    refine prefers_many_nil fun w a k hw hread => ?_
    have hopens : (inOrder [mark, atLeastOne digit]).Opens fun c => c == '.' || c == ',' :=
      opens_char.seq
    have hmark := hopens _ _ _ _ hread
    rw [← hw] at hmark
    exact Bool.false_ne_true (hr.mark.symm.trans hmark)
  have hrow := Prefers.seq (prefers_digits hds (b := b) (r := [] ++ r) hr.digit) hparts
  rwa [List.append_nil] at hrow

end Patterns

section Phrases

variable {pack : LanguagePack} (hpack : pack.IsOrdinary) (hapart : pack.spelling.IsApart)
  {o : String} (ho : o ∈ pack.words .ofWords)

include hpack hapart ho

theorem prefers_ofWord {r : List Char} :
    (pattern (pack.words .ofWords)).Prefers (some ' ') o.toList (' ' :: r) [] := by
  have hproper : ∀ p ∈ pack.words .ofWords, IsProper p.toList := fun p hp => (hpack.words hp).1
  exact prefers_pattern hproper (areDistinct_of_spelling hapart.distinct.2.2.2.2.1) ho
    (fits_self (hproper o ho) behind_space head_space)

variable {b : Option Char} {m k r : List Char} (hm : IsDigits m) (hk : IsDigits k)
  (hr : EndsOperand r)

include hk hr

/-- What stands behind the fraction: a gap, the word for `of`, a gap and the quantity. -/
theorem prefers_quantity : (inOrder [gap, pattern (pack.words .ofWords), gap,
    group 3 (marked digit)]).Prefers b (' ' :: (o.toList ++ ' ' :: k)) r [(3, k)] := by
  have hsolid {r : List Char} : (o.toList ++ r).head?.any isBlank = false :=
    (hpack.words ho).1.head_solid
  exact Prefers.seq (u := [' ']) (prefers_space (by rw [List.append_assoc]; exact hsolid))
    (Prefers.seq (prefers_ofWord hpack hapart ho)
      (Prefers.seq (u := [' ']) (prefers_space (IsNumeral.whole hk).head_solid)
        ((prefers_marked hk hr).group 3)))

include hm

theorem prefers_numeric {n : List Char} (hn : IsDigits n) :
    (numeric (pattern (pack.words .ofWords))).Prefers b
      (m ++ '/' :: (n ++ ' ' :: (o.toList ++ ' ' :: k))) r [(3, k), (2, n), (1, m)] := by
  have hstroke {r : List Char} : ('/' :: r).head?.any isBlank = false := by
    show isBlank '/' = false
    decide
  exact Prefers.seq ((prefers_digits hm (by show isDecimalDigit '/' = false; decide)).group 1)
    (Prefers.seq (u := []) (prefers_loose (by simp) hstroke)
      (Prefers.seq (u := ['/']) prefers_just
        (Prefers.seq (u := []) (prefers_loose (by simp)
            (by rw [List.append_assoc]; exact (IsNumeral.whole hn).head_solid))
          (Prefers.seq ((prefers_digits hn (by show isDecimalDigit ' ' = false; decide)).group 2)
            (prefers_quantity hpack hapart ho hk hr)))))

theorem prefers_spoken {w : List Char} (hw : IsWord w) :
    (spoken (pattern (pack.words .ofWords))).Prefers b
      (m ++ ' ' :: (w ++ ' ' :: (o.toList ++ ' ' :: k))) r [(3, k), (2, w), (1, m)] := by
  have hsolid {r : List Char} : (w ++ r).head?.any isBlank = false := by
    obtain ⟨c, w, rfl⟩ := List.exists_cons_of_ne_nil hw.1
    exact isBlank_of_isLetter (hw.2 c List.mem_cons_self)
  have hword {b : Option Char} {r : List Char} :
      (atLeastOne (char isLetter)).Prefers b w (' ' :: r) [] :=
    prefers_of_first fun _ _ hs =>
      first_atLeastOne_char hw.1 hw.2 (by show isLetter ' ' = false; decide) hs
  exact Prefers.seq ((prefers_digits hm (by show isDecimalDigit ' ' = false; decide)).group 1)
    (Prefers.seq (u := [' ']) (prefers_space (by rw [List.append_assoc]; exact hsolid))
      (Prefers.seq (hword.group 2) (prefers_quantity hpack hapart ho hk hr)))

end Phrases

/-! ## Between the counts -/

namespace Share.IsListed

variable {f : Share} {m : List Char} {w : String} {d : Nat}

theorem count_isPlainDigits (h : f.IsListed) : IsPlainDigits f.count := by
  cases f with
  | written => exact h.1
  | said => exact h.1

theorem parts_isPlainDigits (h : f.IsListed) : IsPlainDigits f.parts := by
  cases f with
  | written => exact h.2
  | said => exact isPlainDigits_toDigits _

theorem isWord (h : (said m w d).IsListed) : IsWord w.toList := by
  obtain ⟨hne, hsmall⟩ := isSmall_of_fractionWord (List.mem_map_of_mem h.2)
  exact ⟨hne, fun c hc => isLetter_of_isSmallLatin (hsmall c hc)⟩

end Share.IsListed

section Links

variable {S : Option Char → List Char → Prop} {b : Option Char} {a : List Char}

theorem nowhere_of_no_digit {u : List Char} (hu : ∀ c ∈ u, isDecimalDigit c = false) :
    Nowhere (BehindDigits S) b u a :=
  (nowhere_head hu).mono fun _ _ h => h.head

theorem nowhere_of_digits {ds : List Char} (hds : IsDigits ds)
    (hend : a.head?.any isDecimalDigit = false) (hS : ∀ b, ¬ S b a) :
    Nowhere (BehindDigits S) b ds a := by
  have hnone := nowhere_behindDigits (b := b) (u := []) hds.2 (by simp) hend (hS _)
  rwa [List.append_nil] at hnone

/-- In a formula digits are read only with a stroke or a parenthesis behind them. -/
theorem nowhere_formula {m n k : List Char} (hm : IsDigits m) (hn : IsDigits n) (hk : IsDigits k)
    (hstroke : ∀ b r, ¬ S b ('/' :: r)) (hparen : ∀ b r, ¬ S b (')' :: r)) :
    Nowhere (BehindDigits S) b (formula m n k) a := by
  have hend {c : Char} (hc : isDecimalDigit c = false) {r : List Char} :
      (c :: r).head?.any isDecimalDigit = false := hc
  unfold formula
  simp only [List.append_assoc, nowhere_append]
  refine ⟨nowhere_of_no_digit (by decide), ?_, nowhere_cons.mpr ⟨?_, ?_⟩,
    nowhere_of_no_digit (by decide), ?_, nowhere_of_no_digit (by decide)⟩
  · exact nowhere_of_digits hm (hend (by decide)) fun _ => hstroke _ _
  · exact fun h => absurd h.head (by show ¬ isDecimalDigit '/' = true; decide)
  · exact nowhere_of_digits hn (hend (by decide)) fun _ => hparen _ _
  · exact nowhere_of_digits hk (hend (by decide)) fun _ => hparen _ _

/-- In a formula there is no fraction with a word. -/
theorem nowhere_quantity_formula {m n k : List Char} (hm : IsPlainDigits m)
    (hn : IsPlainDigits n) (hk : IsPlainDigits k) :
    Nowhere (BehindDigits fun _ => QuantityAhead) b (formula m n k) a :=
  nowhere_formula hm.isDigits hn.isDigits hk.isDigits
    (fun _ _ => not_quantity_solid (by show isBlank '/' = false; decide))
    fun _ _ => not_quantity_solid (by show isBlank ')' = false; decide)

variable {o : List Char} (ho : IsWord o)

include ho

/-- A fraction word and a word for `of` have no digits. -/
theorem no_digit_link {m : List Char} {w : String} {d : Nat} (h : (Share.said m w d).IsListed) :
    ∀ c ∈ (Share.said m w d).link o, isDecimalDigit c = false := by
  have hspace : isDecimalDigit ' ' = false := by decide
  simp only [Share.link, Share.behind, List.cons_append, List.forall_mem_cons,
    List.forall_mem_append, List.not_mem_nil, false_imp_iff, implies_true, and_true]
  exact ⟨hspace, fun c hc => isDecimalDigit_of_isLetter (h.isWord.2 c hc), hspace,
    fun c hc => isDecimalDigit_of_isLetter (ho.2 c hc), hspace⟩

/-- Behind the count of a fraction digits are read only with a word for `of` behind them. -/
theorem nowhere_link {f : Share} (hf : f.IsListed) (hS : ∀ b, ¬ S b (' ' :: (o ++ ' ' :: a))) :
    Nowhere (BehindDigits S) b (f.link o) a := by
  have hspace : isDecimalDigit ' ' = false := by decide
  cases f with
  | said m w d => exact nowhere_of_no_digit (no_digit_link ho hf)
  | written m n =>
    have hrest : ∀ c ∈ ' ' :: (o ++ [' ']), isDecimalDigit c = false := by
      simp only [List.forall_mem_cons, List.forall_mem_append, List.not_mem_nil, false_imp_iff,
        implies_true, and_true]
      exact ⟨hspace, fun c hc => isDecimalDigit_of_isLetter (ho.2 c hc), hspace⟩
    refine nowhere_cons.mpr ⟨fun h => absurd h.head (by show ¬ isDecimalDigit '/' = true; decide),
      nowhere_behindDigits hf.2.isDigits.2 hrest hspace ?_⟩
    simpa using hS _

/-- A count with a fraction word behind it is read only with this and a word for `of`. -/
theorem nowhere_said {m : List Char} {w : String} {d : Nat} (h : (Share.said m w d).IsListed)
    (hS : ∀ b, ¬ S b (' ' :: (w.toList ++ ' ' :: (o ++ ' ' :: a)))) :
    Nowhere (BehindDigits S) b (m ++ (Share.said m w d).link o) a := by
  refine nowhere_behindDigits h.1.isDigits.2 (no_digit_link ho h)
    (by show isDecimalDigit ' ' = false; decide) ?_
  simpa [Share.link, Share.behind] using hS _

end Links

/-! ## The stage of the fractions -/

/-- What may stand in front of an integer: a minus sign or nothing. -/
def IsSign (s : List Char) : Prop := s = [] ∨ s = ['-']

theorem IsSign.mem {s : List Char} (hs : IsSign s) {c : Char} (hc : c ∈ s) : c = '-' := by
  rcases hs with rfl | rfl
  · exact absurd hc List.not_mem_nil
  · exact List.mem_singleton.mp hc

section Stage

variable {pack : LanguagePack} (hpack : pack.IsOrdinary) (hapart : pack.spelling.IsApart)
  {o : String} (ho : o ∈ pack.words .ofWords) {q : List Char} (hq : IsPlainDigits q)

include hapart ho in
theorem isWord_of_ofWord : IsWord o.toList := by
  have hjoint : o.toList ∈ pack.spelling.joints := mem_joints (by simp [ho])
  have hword := (hapart.spoken_joint hjoint).isWord
  rwa [firstWord, hapart.single _ hjoint] at hword

theorem Share.endsOperand_link (f : Share) (o a : List Char) : EndsOperand (f.link o ++ a) := by
  cases f with
  | written => exact endsOperand_cons (by decide)
  | said => exact endsOperand_cons (by decide)

theorem not_stroke_nil (b : Option Char) : ¬ PastBlanks (CharAt '/') b [] := by
  rintro ⟨g, y, hnil, -, -, hy⟩
  obtain ⟨-, rfl⟩ := List.append_eq_nil_iff.mp hnil.symm
  cases hy

/-- No stroke stands behind a gap and a word. -/
theorem not_stroke {x a : List Char} (hx : IsWord x) (b : Option Char) :
    ¬ PastBlanks (CharAt '/') b (' ' :: (x ++ a)) := by
  obtain ⟨c, x, rfl⟩ := List.exists_cons_of_ne_nil hx.1
  have hletter : isLetter c = true := hx.2 c List.mem_cons_self
  have hspace : ∀ c ∈ [' '], isBlank c = true := by decide
  have hsolid : (c :: x ++ a).head?.any isBlank = false := isBlank_of_isLetter hletter
  rw [← List.singleton_append, pastBlanks_iff hspace hsolid]
  intro h
  obtain rfl : c = '/' := Option.some.inj h
  exact absurd hletter (by decide)

include hpack hapart ho

section Single

variable {m n k r : List Char} {w : String} {d : Nat} (hk : IsPlainDigits k) (hr : EndsOperand r)
  (b : Option Char)

include hk hr

/-- A fraction with a stroke takes the digits behind its word for `of`. -/
theorem exists_rewriteAfter_written (hf : (Share.written m n).IsListed) : ∃ b',
    (numeric (pattern (pack.words .ofWords))).rewriteAfter rewriteNumeric b
      (m ++ ((Share.written m n).link o.toList ++ (k ++ r))) =
        formula m n k ++
          (numeric (pattern (pack.words .ofWords))).rewriteAfter rewriteNumeric b' r := by
  have hprefers := prefers_numeric hpack hapart ho (b := b) hf.1.isDigits hk.isDigits hr
    hf.2.isDigits
  have htext : m ++ ((Share.written m n).link o.toList ++ (k ++ r)) =
      m ++ '/' :: (n ++ ' ' :: (o.toList ++ ' ' :: k)) ++ r := by
    simp [Share.link, Share.behind]
  rw [htext]
  exact ⟨_, hprefers.rewriteAfter_eq (by simp) _⟩

/-- So does a fraction with a word. -/
theorem exists_rewriteAfter_said (hf : (Share.said m w d).IsListed) : ∃ b',
    (spoken (pattern (pack.words .ofWords))).rewriteAfter rewriteSpoken b
      (m ++ ((Share.said m w d).link o.toList ++ (k ++ r))) =
        formula m (Nat.toDigits 10 d) k ++
          (spoken (pattern (pack.words .ofWords))).rewriteAfter rewriteSpoken b' r := by
  have hprefers := prefers_spoken hpack hapart ho (b := b) hf.1.isDigits hk.isDigits hr hf.isWord
  have htext : m ++ ((Share.said m w d).link o.toList ++ (k ++ r)) =
      m ++ ' ' :: (w.toList ++ ' ' :: (o.toList ++ ' ' :: k)) ++ r := by
    simp [Share.link, Share.behind]
  rw [htext]
  refine ⟨_, (hprefers.rewriteAfter_eq (by simp) _).trans (congrArg (· ++ _) ?_)⟩
  exact rewriteSpoken_of_denominator (fractionDenominator?_eq_some hf.2)

end Single

include hq

/-- The first pass, along the fractions: one with a word is passed over, and one with a stroke takes
the count of the next. -/
theorem rewriteAfter_numeric {fs : List Share} (hfs : ∀ f ∈ fs, f.IsListed) (b : Option Char) :
    (numeric (pattern (pack.words .ofWords))).rewriteAfter rewriteNumeric b
      (join [' '] (phrase o.toList q fs)) = join [' '] (struck o.toList q fs) := by
  have hword := isWord_of_ofWord hapart ho
  have hopens := opensAt_numeric (pattern (pack.words .ofWords))
  induction fs using struck.induct generalizing b with
  | case1 => exact hopens.rewriteAfter _ (nowhere_of_digits hq.isDigits rfl not_stroke_nil)
  | case2 m w d fs ih =>
    obtain ⟨hf, hrest⟩ := List.forall_mem_cons.mp hfs
    have hno : Nowhere (BehindDigits (PastBlanks (CharAt '/'))) b
        (m ++ (Share.said m w d).link o.toList) (join [' '] (phrase o.toList q fs)) :=
      nowhere_said hword hf fun b => not_stroke hf.isWord b
    rw [phrase, struck, Share.join_tokens _ _ (phrase_ne_nil fs),
      Share.join_tokens _ _ (struck_ne_nil fs), ← List.append_assoc, ← List.append_assoc]
    show rewriteAfter _ _ _ (m ++ _ ++ _) = _
    rw [rewriteAfter_quiet _ (hopens.quiet hno), ih hrest]
  | case3 m n =>
    obtain ⟨b', hformula⟩ := exists_rewriteAfter_written hpack hapart ho hq (r := []) rfl b
      (hfs _ List.mem_cons_self)
    rw [List.append_nil, rewriteAfter_nil, List.append_nil] at hformula
    rwa [phrase, Share.join_tokens _ _ (phrase_ne_nil [])]
  | case4 m n g fs ih =>
    obtain ⟨hf, hg, hrest⟩ := by simpa only [List.forall_mem_cons] using hfs
    obtain ⟨b', hformula⟩ := exists_rewriteAfter_written hpack hapart ho hg.count_isPlainDigits
      (g.endsOperand_link o.toList (join [' '] (phrase o.toList q fs))) b hf
    have hno : Nowhere (BehindDigits (PastBlanks (CharAt '/'))) b' (g.link o.toList)
        (join [' '] (phrase o.toList q fs)) :=
      nowhere_link hword hg fun b => not_stroke hword b
    rw [phrase, phrase, Share.join_tokens _ _ (g.tokens_ne_nil _ _),
      Share.join_tokens _ _ (phrase_ne_nil fs), struck, Share.join_tokens _ _ (struck_ne_nil fs)]
    refine hformula.trans ?_
    rw [rewriteAfter_quiet _ (hopens.quiet hno), ih hrest]

omit hpack hapart ho in
/-- What the fractions with a stroke come to begins with a digit or a parenthesis. -/
theorem struck_head {fs : List Share} (hfs : ∀ f ∈ fs, f.IsListed) {g : Char → Bool}
    (hdigit : ∀ c, isDecimalDigit c = true → g c = false) (hparen : g '(' = false) :
    (join [' '] (struck o.toList q fs)).head?.any g = false := by
  have hnumber {ds r : List Char} (hds : IsPlainDigits ds) : (ds ++ r).head?.any g = false := by
    obtain ⟨c, ds, rfl⟩ := List.exists_cons_of_ne_nil hds.1
    exact hdigit c (hds.isDigits.2 c List.mem_cons_self)
  cases fs using struck.fun_cases with
  | case1 => simpa [struck, join] using hnumber (r := []) hq
  | case2 m w d fs =>
    rw [struck, Share.join_tokens _ _ (struck_ne_nil fs)]
    exact hnumber (hfs _ List.mem_cons_self).1
  | case3 m n => exact hparen
  | case4 m n h fs =>
    rw [struck, Share.join_tokens _ _ (struck_ne_nil fs)]
    exact hparen

omit hpack hapart ho hq in
/-- With a fraction with a stroke in front it begins with a parenthesis. -/
theorem struck_written_head (m n : List Char) (fs : List Share) :
    (join [' '] (struck o.toList q (.written m n :: fs))).head? = some '(' := by
  cases fs with
  | nil => rfl
  | cons g fs =>
    rw [struck, Share.join_tokens _ _ (struck_ne_nil fs)]
    rfl

omit hpack ho hq in
theorem opensAt_spoken_ofWords : (spoken (pattern (pack.words .ofWords))).OpensAt
    (BehindDigits fun _ => QuantityAhead) := by
  refine opensAt_spoken_of_single fun p hp => ?_
  have hjoint : p.toList ∈ pack.spelling.joints := mem_joints (by simp [hp])
  exact ⟨hapart.spoken_joint hjoint, hapart.single _ hjoint⟩

omit hpack in
/-- What is left behind a count is no fraction with a word. -/
theorem nowhere_quantity_link {g : Share} (hg : g.IsListed) {fs : List Share}
    (hfs : ∀ f ∈ fs, f.IsListed) (b : Option Char) :
    Nowhere (BehindDigits fun _ => QuantityAhead) b (g.link o.toList)
      (join [' '] (struck o.toList q fs)) := by
  have hword := isWord_of_ofWord hapart ho
  refine nowhere_link hword hg fun _ => not_quantity_word hword ?_ ?_
  · exact struck_head hq hfs (fun _ => isBlank_of_isDecimalDigit) (by decide)
  · exact struck_head hq hfs (fun _ => isLetter_of_isDecimalDigit) (by decide)

/-- The second pass, along the fractions: in what the first one has made of them a fraction with a
word takes the count of another one with a word. -/
theorem rewriteAfter_spoken {fs : List Share} (hfs : ∀ f ∈ fs, f.IsListed) (b : Option Char) :
    (spoken (pattern (pack.words .ofWords))).rewriteAfter rewriteSpoken b
      (join [' '] (struck o.toList q fs)) = join [' '] (reading o.toList q fs) := by
  have hword := isWord_of_ofWord hapart ho
  have hopens := opensAt_spoken_ofWords hapart
  induction fs using reading.induct generalizing b with
  | case1 =>
    exact hopens.rewriteAfter _
      (nowhere_of_digits hq.isDigits rfl fun _ => not_quantity_solid rfl)
  | case2 f =>
    have hf := hfs _ List.mem_cons_self
    cases f with
    | written m n => exact hopens.rewriteAfter _ (nowhere_quantity_formula hf.1 hf.2 hq)
    | said m w d =>
      obtain ⟨b', hformula⟩ := exists_rewriteAfter_said hpack hapart ho hq (r := []) rfl b hf
      rw [List.append_nil, rewriteAfter_nil, List.append_nil] at hformula
      rwa [struck, Share.join_tokens _ _ (struck_ne_nil [])]
  | case3 m w d k n fs ih =>
    obtain ⟨hf, hrest⟩ := List.forall_mem_cons.mp hfs
    have hno : Nowhere (BehindDigits fun _ => QuantityAhead) b
        (m ++ (Share.said m w d).link o.toList)
        (join [' '] (struck o.toList q (.written k n :: fs))) := by
      -- the first pass has put a parenthesis where the quantity stood
      refine nowhere_said hword hf fun _ => not_quantity_words hf.isWord hword ?_ ?_
      · rw [struck_written_head]
        decide
      · rw [struck_written_head]
        decide
    rw [struck, reading, Share.join_tokens _ _ (struck_ne_nil _),
      Share.join_tokens _ _ (reading_ne_nil _), ← List.append_assoc, ← List.append_assoc,
      rewriteAfter_quiet _ (hopens.quiet hno), ih hrest]
  | case4 f g fs hne ih =>
    obtain ⟨hf, hg, hrest⟩ := by simpa only [List.forall_mem_cons] using hfs
    have hlink := nowhere_quantity_link hapart ho hq hg hrest
    -- `g` has lost its count to `f`, in this pass or in the one before
    rw [reading, Share.join_tokens _ _ (reading_ne_nil _)]
    · cases f with
      | written m n =>
        have hno : Nowhere (BehindDigits fun _ => QuantityAhead) b
            (formula m n g.count ++ g.link o.toList) (join [' '] (struck o.toList q fs)) :=
          nowhere_append.mpr ⟨nowhere_quantity_formula hf.1 hf.2 hg.count_isPlainDigits, hlink _⟩
        rw [struck, Share.join_tokens _ _ (struck_ne_nil _), ← List.append_assoc,
          rewriteAfter_quiet _ (hopens.quiet hno), ih hrest, List.append_assoc]
        rfl
      | said m w d =>
        cases g with
        | written k n => exact absurd rfl (hne m w d k n rfl)
        | said k v e =>
          obtain ⟨b', hformula⟩ := exists_rewriteAfter_said hpack hapart ho hg.1
            ((Share.said k v e).endsOperand_link o.toList (join [' '] (struck o.toList q fs))) b hf
          rw [struck, struck, Share.join_tokens _ _ (Share.tokens_ne_nil _ _ _),
            Share.join_tokens _ _ (struck_ne_nil fs), hformula,
            rewriteAfter_quiet _ (hopens.quiet (hlink b')), ih hrest]
          rfl
    · exact hne

variable {lexicon : Lexicon} (hof : lexicon.IsOf pack) {s : List Char} (hs : IsSign s)

include hof hs

/-- The stage of the fractions reads a row of fractions behind a sign as if it stood alone. -/
theorem fractions_phrase {fs : List Share} (hfs : ∀ f ∈ fs, f.IsListed) :
    rewrite lexicon.numericFraction lexicon.spokenFraction
      (s ++ join [' '] (phrase o.toList q fs)) = s ++ join [' '] (reading o.toList q fs) := by
  have hproper : ∀ p ∈ pack.words .ofWords, IsProper p.toList := fun p hp => (hpack.words hp).1
  have hsign {p : Pattern} (hp : p.Opens isDecimalDigit) (a : List Char) : p.Quiet none s a :=
    hp.quiet (nowhere_head fun c hc => by rw [hs.mem hc]; decide)
  have hopens {ofWord : Pattern} : (numeric ofWord).Opens isDecimalDigit ∧
      (spoken ofWord).Opens isDecimalDigit :=
    ⟨(opens_atLeastOne_char.group 1).seq, (opens_atLeastOne_char.group 1).seq⟩
  unfold FractionPhrase.rewrite
  rw [hof.numericFraction, hof.spokenFraction, pattern?_of_mem hproper ho]
  show (spoken _).rewrite rewriteSpoken ((numeric _).rewrite rewriteNumeric _) = _
  rw [rewrite_eq_rewriteAfter, rewrite_eq_rewriteAfter,
    rewriteAfter_quiet _ (hsign hopens.1 _), rewriteAfter_numeric hpack hapart ho hq hfs,
    rewriteAfter_quiet _ (hsign hopens.2 _), rewriteAfter_spoken hpack hapart ho hq hfs]

end Stage

end CalcSpeech.FractionPhrase
