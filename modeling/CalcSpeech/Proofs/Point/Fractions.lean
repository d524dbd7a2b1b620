import CalcSpeech.Proofs.Fraction
import CalcSpeech.Proofs.Lexicon
import CalcSpeech.Proofs.Point.Fronts

/-!
# Fractions behind a decimal point

A fraction of a quantity begins with digits, so the decimals of a number can be its numerator: they
are then taken into a formula (`Decimals.taken`), and the decimal point is left without decimals.
In front of them nothing is read (`IsFront.fractions`).
-/

namespace CalcSpeech

open Unicode Pattern Vocabulary

/-- What a stage leaves of the decimals `ds` and the text behind them: the decimals in front of a
text, or a formula that has taken them. -/
inductive Decimals (ds : List Char) : List Char → Prop
  | kept {t} : IsTail t → Decimals ds (ds ++ t)
  | taken {r} : Decimals ds ('(' :: r)

/-- Whether a phrase may begin with this character. -/
def canBegin (c : Char) : Bool := isLetter c || signs.contains c

theorem Vocabulary.Begins.canBegin {phrases : List String} {b : Option Char} {rest : List Char}
    (h : Begins phrases b rest) : rest.head?.any canBegin = true := by
  obtain ⟨p, -, ⟨hspoken, hword⟩ | ⟨c, hc, -, hhead⟩⟩ := h
  · have hletter := hword.head hspoken.isWord
    cases rest with
    | nil => cases hletter
    | cons c rest =>
      have hc : isLetter c = true := hletter
      show (isLetter c || signs.contains c) = true
      rw [hc, Bool.true_or]
  · rw [hhead]
    show (isLetter c || signs.contains c) = true
    rw [List.contains_iff_mem.mpr hc, Bool.or_true]

theorem isBlank_of_canBegin {c : Char} (h : canBegin c = true) : isBlank c = false := by
  have hsigns : ∀ c ∈ signs, isBlank c = false := by decide
  rcases Bool.or_eq_true_iff.mp h with hletter | hsign
  · exact isBlank_of_isLetter hletter
  · exact hsigns c (List.contains_iff_mem.mp hsign)

theorem canBegin_of_isDecimalDigit {c : Char} (h : isDecimalDigit c = true) :
    canBegin c = false := by
  have hsigns : ∀ c ∈ signs, isDecimalDigit c = false := by decide +kernel
  rw [canBegin, isLetter_of_isDecimalDigit h, Bool.false_or, Bool.eq_false_iff]
  intro hmem
  rw [hsigns c (List.contains_iff_mem.mp hmem)] at h
  exact Bool.false_ne_true h

/-- The decimals, or the formula that has taken them, begin no phrase. -/
theorem Decimals.head {ds x : List Char} (h : Decimals ds x) (hds : IsDigits ds) {f : Char → Bool}
    (hdigit : ∀ c, isDecimalDigit c = true → f c = false) (hparen : f '(' = false) :
    x.head?.any f = false := by
  cases h with
  | kept =>
    obtain ⟨d, ds, rfl⟩ := List.exists_cons_of_ne_nil hds.1
    exact hdigit d (hds.2 d List.mem_cons_self)
  | taken => exact hparen

/-! ## One pass -/

/-- A pass over what begins with digits keeps the decimals or takes them into a formula. -/
theorem Decimals.rewrite {ds x : List Char} (h : Decimals ds x) (hds : IsDigits ds) {p : Pattern}
    (hopens : p.Opens isDecimalDigit) (hextends : p.Extends isDecimalDigit)
    {change : Match → List Char}
    (hchange : ∀ b m a, p.Reads b m.text a m.groups → (∃ r, change m = '(' :: r) ∨
      change m = m.text ∧ ∃ n c r, m.text = n ++ c :: r ∧ IsDigits n ∧ isBlank c = true) :
    Decimals ds (p.rewrite change x) := by
  have hspace {c : Char} (hc : isDecimalDigit c = false) (b : Option Char) (r : List Char) :
      p.matchAt? b (c :: r) = none :=
    hopens.matchAt?_eq_none (by show ¬ isDecimalDigit c = true; rw [hc]; exact Bool.false_ne_true)
  -- at the front a digit is matched or not; behind an opening parenthesis nothing is
  cases h with
  | @taken r =>
    rw [rewrite_eq_rewriteAfter, rewriteAfter_plain change (hspace (by decide) none r)]
    exact .taken
  | @kept t ht =>
    cases hm : p.matchAt? none (ds ++ t) with
    | none =>
      obtain ⟨hrow, htail⟩ := rewrite_tail change (hextends.quiet hds.2 hm) ht fun b r =>
        hspace (by decide) b r
      rw [hrow]
      exact .kept htail
    | some m =>
      obtain ⟨-, a, ha, hread⟩ := reads_of_matchAt? hm
      rw [ha] at hm
      rw [ha, rewrite_eq_rewriteAfter, rewriteAfter_found change hm]
      rcases hchange _ _ _ hread with ⟨r, hr⟩ | ⟨hself, n, c, r, htext, hn, hc⟩
      · rw [hr]
        exact .taken
      · -- the match goes on behind the decimals, which it leaves as they are
        have hend : (c :: r ++ a).head?.any isDecimalDigit = false := isDecimalDigit_of_isBlank hc
        rw [htext, List.append_assoc] at ha
        obtain ⟨rfl, rfl⟩ := eq_of_spans hds.2 hn.2 (ht.head (by decide)) hend ha
        obtain rfl : c = ' ' := by
          rcases ht with hnil | ⟨rest, hrest⟩
          · cases hnil
          · exact (List.cons.inj hrest).1
        rw [hself, htext, List.append_assoc]
        exact .kept (Or.inr ⟨_, rfl⟩)

namespace FractionPhrase

/-- A gap, a word, a gap and what a phrase may begin with stand here. -/
def WordAhead (_before : Option Char) (text : List Char) : Prop :=
  ∃ g x i r, text = g ++ (x ++ (i ++ r)) ∧ (g ≠ [] ∧ ∀ c ∈ g, isBlank c = true) ∧ IsWord x ∧
    (i ≠ [] ∧ ∀ c ∈ i, isBlank c = true) ∧ r.head?.any canBegin = true

theorem opensAt_numeric (ofWord : Pattern) :
    (numeric ofWord).OpensAt (BehindDigits (PastBlanks (CharAt '/'))) :=
  opensAt_digits (digits_group digits_digits 1)
    (opensAt_loose opensAt_just.seq fun _ _ h => h.any (by decide))
    fun _ _ h => h.digit fun _ _ h => h.any (by decide)

theorem kept_of_pattern (phrases : List String) (b : Option Char) (w a : List Char)
    (k : List (Nat × List Char)) (h : (Vocabulary.pattern phrases).Reads b w a k) : k = [] :=
  (reads_pattern.mp h).1

theorem opensAt_spoken {phrases : List String} (h : ∀ p ∈ phrases, IsProper p.toList) :
    (spoken (Vocabulary.pattern phrases)).OpensAt (BehindDigits WordAhead) := by
  intro b w a k hread
  obtain ⟨n, g, x, i, o, j, r, rfl, hn, hg, hx, hi, -, ⟨b', ho⟩, -⟩ :=
    reads_spoken (kept_of_pattern phrases) hread
  refine ⟨n, g ++ (x ++ (i ++ (o ++ (j ++ r ++ a)))), by simp, hn, ?_, g, x, i,
    o ++ (j ++ r ++ a), rfl, hg, hx, hi, ?_⟩
  · obtain ⟨c, g, rfl⟩ := List.exists_cons_of_ne_nil hg.1
    exact isDecimalDigit_of_isBlank (hg.2 c List.mem_cons_self)
  · exact (begins_of_finds h (reads_pattern.mp ho).2).1.canBegin

end FractionPhrase

open FractionPhrase

/-! ## In front of the decimals -/

section Points

variable {b : Option Char} {x : List Char}

theorem not_pastBlanks_point {R : Option Char → List Char → Prop} {mark : DecimalMark}
    (hR : ∀ b, ¬ R b (mark.point :: x)) : ¬ PastBlanks R b (mark.point :: x) := by
  have hnone : ∀ c ∈ ([] : List Char), isBlank c = true := by simp
  have hsolid : (mark.point :: x).head?.any isBlank = false := by
    show isBlank mark.point = false
    cases mark <;> decide
  rw [← List.nil_append (mark.point :: x), pastBlanks_iff hnone hsolid]
  exact hR _

theorem not_charAhead_point {mark : DecimalMark} {m : Char} (hm : mark.point ≠ m) :
    ¬ PastBlanks (CharAt m) b (mark.point :: x) :=
  not_pastBlanks_point fun _ h => hm (Option.some.inj h)

theorem not_wordAhead_point (mark : DecimalMark) : ¬ WordAhead b (mark.point :: x) := by
  have hpoint : isBlank mark.point = false := by cases mark <;> decide
  rintro ⟨g, y, i, r, htext, ⟨hne, hblank⟩, -⟩
  obtain ⟨c, g, rfl⟩ := List.exists_cons_of_ne_nil hne
  obtain ⟨rfl, -⟩ := List.cons.inj htext
  exact Bool.false_ne_true (hpoint.symm.trans (hblank _ List.mem_cons_self))

variable {others : List (List Char)} {w : List Char} (hw : PointWord others w)

include hw

/-- Behind the space in front of a word for the decimal point is that word. -/
theorem PointWord.not_pastBlanks {R : Option Char → List Char → Prop}
    (hR : ¬ R (some ' ') (w ++ ' ' :: x)) : ¬ PastBlanks R b (' ' :: (w ++ ' ' :: x)) := by
  have hspace : ∀ c ∈ [' '], isBlank c = true := by decide
  have hsolid : (w ++ ' ' :: x).head?.any isBlank = false :=
    IsProper.head_solid (Or.inl hw.spoken)
  have hrow : ' ' :: (w ++ ' ' :: x) = [' '] ++ (w ++ ' ' :: x) := rfl
  rw [hrow, pastBlanks_iff hspace hsolid]
  exact hR

/-- What is no letter does not stand where a word for the decimal point does. -/
theorem PointWord.not_charAhead {m : Char} (hm : isLetter m = false) :
    ¬ PastBlanks (CharAt m) b (' ' :: (w ++ ' ' :: x)) := by
  apply hw.not_pastBlanks
  obtain ⟨c, w', hcw⟩ := List.exists_cons_of_ne_nil hw.isWord.1
  have hletter := hw.isWord.2 c (by rw [hcw]; simp)
  rw [hcw]
  intro h
  obtain rfl : c = m := Option.some.inj h
  exact Bool.false_ne_true (hm.symm.trans hletter)

/-- A word for the decimal point is no fraction word in front of a quantity. -/
theorem PointWord.not_wordAhead (hblank : x.head?.any isBlank = false)
    (hx : x.head?.any canBegin = false) : ¬ WordAhead b (' ' :: (w ++ ' ' :: x)) := by
  rintro ⟨g, y, i, r, htext, ⟨-, hg⟩, hy, ⟨hine, hi⟩, hr⟩
  have hspace : ∀ c ∈ [' '], isBlank c = true := by decide
  have hsolid {z a : List Char} (hz : IsWord z) : (z ++ a).head?.any isBlank = false := by
    obtain ⟨c, z, rfl⟩ := List.exists_cons_of_ne_nil hz.1
    exact isBlank_of_isLetter (hz.2 c List.mem_cons_self)
  obtain ⟨-, hword⟩ := eq_of_spans hspace hg (hsolid hw.isWord) (hsolid hy) htext
  have hend : (i ++ r).head?.any isLetter = false := by
    obtain ⟨c, i, rfl⟩ := List.exists_cons_of_ne_nil hine
    exact isLetter_of_isBlank (hi c List.mem_cons_self)
  have hspace' : (' ' :: x).head?.any isLetter = false := by
    show isLetter ' ' = false
    decide
  obtain ⟨-, hrest⟩ := eq_of_spans hw.isWord.2 hy.2 hspace' hend hword
  have hr' : r.head?.any isBlank = false := by
    cases r with
    | nil => rfl
    | cons c r => exact isBlank_of_canBegin hr
  obtain ⟨-, rfl⟩ := eq_of_spans hspace hi hblank hr' hrest
  exact Bool.false_ne_true (hx.symm.trans hr)

end Points

/-! ## The stage as a whole -/

section Stage

variable {pack : LanguagePack} (hpack : pack.IsOrdinary) {lexicon : Lexicon}
  (hof : lexicon.IsOf pack) {ds t : List Char} (hds : IsDigits ds) (ht : IsTail t)

theorem decimals_numeric (ofWord : Pattern) {ds x : List Char} (hds : IsDigits ds)
    (hx : Decimals ds x) : Decimals ds ((numeric ofWord).rewrite rewriteNumeric x) :=
  hx.rewrite hds (OpensAt.mono (opensAt_numeric ofWord) fun _ _ h => h.head)
    (extends_atLeastOne.group 1).seq fun _ _ _ _ => Or.inl ⟨_, rfl⟩

include hpack hof hds ht

/-- Fractions are read behind a front as if the decimals stood alone. -/
theorem IsFront.fractions {a u : List Char} (hu : IsFront pack a u)
    (ha : ∀ c ∈ a, isDecimalDigit c = true) :
    FractionPhrase.rewrite lexicon.numericFraction lexicon.spokenFraction (u ++ (ds ++ t)) =
      u ++ FractionPhrase.rewrite lexicon.numericFraction lexicon.spokenFraction (ds ++ t) := by
  unfold FractionPhrase.rewrite
  rw [hof.numericFraction, hof.spokenFraction]
  cases hwords : pattern? (pack.words .ofWords) with
  | none => rfl
  | some ofWord =>
    rw [eq_pattern_of_pattern? hwords]
    have hproper : ∀ p ∈ pack.words .ofWords, IsProper p.toList := fun p hp => (hpack.words hp).1
    have hnumeric := decimals_numeric (Vocabulary.pattern (pack.words .ofWords)) hds (.kept ht)
    have hstroke : pack.decimalMark.point ≠ '/' := by cases pack.decimalMark <;> decide
    show (FractionPhrase.spoken _).rewrite _ ((FractionPhrase.numeric _).rewrite _ _) =
      u ++ (FractionPhrase.spoken _).rewrite _ ((FractionPhrase.numeric _).rewrite _ _)
    rw [hu.rewrite_append (opensAt_numeric _) (hu.nowhere_behindDigits ha
        (fun w b hw => hw.not_charAhead (by decide)) fun b => not_charAhead_point hstroke),
      hu.rewrite_append (opensAt_spoken hproper) (hu.nowhere_behindDigits ha
        (fun w b hw => hw.not_wordAhead ?_ ?_) fun b => not_wordAhead_point _)]
    · exact hnumeric.head hds (fun _ h => isBlank_of_isDecimalDigit h) (by decide)
    · exact hnumeric.head hds (fun _ h => canBegin_of_isDecimalDigit h) (by decide)

end Stage

end CalcSpeech
