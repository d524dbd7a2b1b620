import CalcSpeech.Proofs.NumberWord
import CalcSpeech.Proofs.Pattern.Digits
import CalcSpeech.Proofs.Point.Words

/-!
# In front of the decimals

The whole part of a number and its decimal point, spoken or written, stand in front of its
decimals. A stage that reads nothing there rewrites the decimals and what follows them as if they
stood alone (`IsFront.rewrite_append`), so it does not matter how the point is given.
-/

namespace CalcSpeech

open Unicode Pattern Vocabulary

/-- The whole part `a` of a number with its decimal point, spoken or written. -/
inductive IsFront (pack : LanguagePack) (a : List Char) : List Char → Prop
  | spoken {w} : PointWord (pack.otherStrings.map String.toList) w →
      IsFront pack a (spokenFront a w)
  | written : IsFront pack a (writtenFront a pack.decimalMark.point)

theorem point_cases (mark : DecimalMark) : mark.point = '.' ∨ mark.point = ',' := by
  cases mark
  · exact Or.inl rfl
  · exact Or.inr rfl

/-- The characters of such a front. -/
theorem IsFront.mem {pack : LanguagePack} {a u : List Char} (hu : IsFront pack a u)
    (ha : IsPlainDigits a) {c : Char} (hc : c ∈ u) :
    c.isDigit = true ∨ isSmallLatin c = true ∨ c ∈ [' ', '.', ','] := by
  cases hu with
  | spoken hw =>
    simp only [spokenFront, List.mem_append, List.mem_cons, List.not_mem_nil, or_false] at hc
    rcases hc with hc | rfl | hc | rfl
    · exact Or.inl (ha.2 c hc)
    · exact Or.inr (Or.inr (by decide))
    · rcases hw.spoken.mem hc with rfl | hletter
      · exact Or.inr (Or.inr (by decide))
      · exact Or.inr (Or.inl hletter)
    · exact Or.inr (Or.inr (by decide))
  | written =>
    simp only [writtenFront, List.mem_append, List.mem_singleton] at hc
    rcases hc with hc | rfl
    · exact Or.inl (ha.2 c hc)
    · refine Or.inr (Or.inr ?_)
      rcases point_cases pack.decimalMark with h | h <;> rw [h] <;> decide

section Fronts

variable {pack : LanguagePack} {a u x : List Char} (hu : IsFront pack a u)

include hu

/-- What follows a front begins a word of its own. -/
theorem IsFront.behind : (behind none u).any isWordCharacter = false := by
  cases hu with
  | spoken =>
    rw [spokenFront, ← List.cons_append, ← List.append_assoc, behind_append]
    show isWordCharacter ' ' = false
    decide
  | written =>
    rw [writtenFront, behind_append]
    show isWordCharacter pack.decimalMark.point = false
    rcases point_cases pack.decimalMark with h | h <;> rw [h] <;> decide

variable (ha : ∀ c ∈ a, isDecimalDigit c = true)

include ha

/-- In a front no phrase begins but the word for the decimal point. -/
theorem IsFront.nowhere_begins {phrases : List String} (h : AreOther pack phrases) :
    Nowhere (Begins phrases) none u x := by
  cases hu with
  | spoken hw => exact nowhere_begins_spoken ha hw h
  | written => exact nowhere_begins_written ha (point_cases _)

/-- In a front digits are read only with the decimal point behind them. -/
theorem IsFront.nowhere_behindDigits {S : Option Char → List Char → Prop}
    (hspoken : ∀ w b, PointWord (pack.otherStrings.map String.toList) w →
      ¬ S b (' ' :: (w ++ ' ' :: x)))
    (hwritten : ∀ b, ¬ S b (pack.decimalMark.point :: x)) :
    Nowhere (BehindDigits S) none u x := by
  have hspace : isDecimalDigit ' ' = false := by decide
  have hpoint : isDecimalDigit pack.decimalMark.point = false := by
    rcases point_cases pack.decimalMark with h | h <;> rw [h] <;> decide
  cases hu with
  | @spoken w hw =>
    have hword : ∀ c ∈ ' ' :: (w ++ [' ']), isDecimalDigit c = false := by
      intro c hc
      simp only [List.mem_cons, List.mem_append, List.not_mem_nil, or_false] at hc
      rcases hc with rfl | hc | rfl
      · exact hspace
      · exact isDecimalDigit_of_isLetter (hw.isWord.2 c hc)
      · exact hspace
    refine nowhere_behindDigits ha hword hspace ?_
    rw [List.cons_append, List.append_assoc]
    exact hspoken w _ hw
  | written =>
    exact nowhere_behindDigits ha (List.forall_mem_singleton.mpr hpoint) hpoint (hwritten _)

omit ha in
/-- A stage that reads nothing in a front rewrites what follows as if it stood alone. -/
theorem IsFront.rewrite_append {p : Pattern} {Q : Option Char → List Char → Prop}
    (hp : p.OpensAt Q) (hno : Nowhere Q none u x) (change : Match → List Char) :
    p.rewrite change (u ++ x) = u ++ p.rewrite change x :=
  Pattern.rewrite_append change (hp.quiet hno) hu.behind

/-- Number words are read behind a front as if they stood alone. -/
theorem IsFront.numberWords (hpack : pack.IsOrdinary) {reader : Option NumberWord.Reader}
    (hreader : NumberWord.Reader.ofPack? pack = .ok reader) :
    NumberWord.rewrite reader (u ++ x) = u ++ NumberWord.rewrite reader x := by
  have hnumbers : AreOther pack (NumberWord.numberNames pack) := fun p hp =>
    ⟨(hpack.numbers p hp).1, Or.inl (mem_otherStrings (Or.inl hp))⟩
  have hprotected : AreOther pack (NumberWord.protectedPhrases pack) := by
    intro p hp
    refine ⟨(hpack.protectedPhrases hp).1, Or.inl (mem_otherStrings ?_)⟩
    obtain ⟨hmem, -⟩ := List.mem_filter.mp hp
    rcases List.mem_append.mp hmem with hmem | hscale
    · rcases List.mem_append.mp hmem with hof | hword
      · exact Or.inr (Or.inl ⟨.percentOf, by decide, hof⟩)
      · exact Or.inr (Or.inl ⟨.percentage, by decide, hword⟩)
    · exact Or.inr (Or.inr (Or.inr (List.mem_filter.mp hscale).1))
  cases reader with
  | none => rfl
  | some reader =>
    show reader.run.rewrite reader.rewriteRun (u ++ x) = u ++ reader.run.rewrite reader.rewriteRun x
    rw [NumberWord.run_eq_runOf hreader]
    exact hu.rewrite_append (NumberWord.opensAt_runOf hpack)
      ((hu.nowhere_begins ha hprotected).or (hu.nowhere_begins ha hnumbers)) _

end Fronts

/-! ## Digits and what follows them -/

/-- Digits in front of a tail that begin no match stay as they are, and the tail is rewritten to a
tail. -/
theorem rewrite_tail {p : Pattern} (change : Match → List Char) {ds t : List Char}
    (hquiet : p.Quiet none ds t) (ht : IsTail t)
    (hspace : ∀ b r, p.matchAt? b (' ' :: r) = none) :
    p.rewrite change (ds ++ t) = ds ++ p.rewriteAfter change (behind none ds) t ∧
      IsTail (p.rewriteAfter change (behind none ds) t) := by
  rw [rewrite_eq_rewriteAfter, rewriteAfter_quiet change hquiet]
  refine ⟨rfl, ?_⟩
  rcases ht with rfl | ⟨r, rfl⟩
  · exact Or.inl rfl
  · rw [rewriteAfter_plain change (hspace _ _)]
    exact Or.inr ⟨_, rfl⟩

/-- Number words behind digits leave the digits and the space behind them. -/
theorem exists_numberWords_tail {pack : LanguagePack} (hpack : pack.IsOrdinary)
    {reader : Option NumberWord.Reader} (hreader : NumberWord.Reader.ofPack? pack = .ok reader)
    {ds t : List Char} (hds : ∀ c ∈ ds, isDecimalDigit c = true) (ht : IsTail t) :
    ∃ t', NumberWord.rewrite reader (ds ++ t) = ds ++ t' ∧ IsTail t' := by
  cases reader with
  | none => exact ⟨t, rfl, ht⟩
  | some reader =>
    show ∃ t', reader.run.rewrite reader.rewriteRun (ds ++ t) = ds ++ t' ∧ IsTail t'
    rw [NumberWord.run_eq_runOf hreader]
    have hopens := NumberWord.opensAt_runOf hpack
    have hdigits : ∀ c ∈ signs, isDecimalDigit c = false := by decide +kernel
    have hno {phrases : List String} : Nowhere (Begins phrases) none ds t := by
      apply nowhere_begins
      · intro p _ hspoken
        exact nowhere_word_of_no_letter hspoken.isWord fun c hc => isLetter_of_isDecimalDigit (hds c hc)
      · intro c hc _ hmem
        exact Bool.false_ne_true ((hdigits c hc).symm.trans (hds c hmem))
    refine ⟨_, rewrite_tail _ (hopens.quiet (hno.or hno)) ht fun b r => ?_⟩
    refine hopens.matchAt?_eq_none fun h => ?_
    rcases h with h | h <;> exact not_begins_space h

end CalcSpeech
