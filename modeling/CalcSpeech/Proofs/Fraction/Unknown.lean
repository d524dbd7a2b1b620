import CalcSpeech.Proofs.Fraction.Phrases

/-!
# Words that are no fraction words

A phrase with an unknown word in the place of a fraction word stays as it is, but it is passed over
as a whole, its quantity included (`exists_rewriteAfter_unknown`). So it hides a fraction whose
count that quantity is, which would have been read if it stood alone (`fractions_unknown`).
-/

namespace CalcSpeech.FractionPhrase

open Unicode Pattern Vocabulary Text

section Stage

variable {pack : LanguagePack} (hpack : pack.IsOrdinary) (hapart : pack.spelling.IsApart)
  {o : String} (ho : o ∈ pack.words .ofWords) {m u k : List Char} (hm : IsDigits m) (hu : IsWord u)
  (hunknown : fractionDenominator? u = none) (hk : IsDigits k)

include hpack hapart ho hm hu hunknown hk

/-- A phrase with an unknown word stays, and reading goes on behind its quantity. -/
theorem exists_rewriteAfter_unknown {r : List Char} (hr : EndsOperand r) (b : Option Char) : ∃ b',
    (spoken (pattern (pack.words .ofWords))).rewriteAfter rewriteSpoken b
      (join [' '] [m, u, o.toList, k] ++ r) =
        join [' '] [m, u, o.toList, k] ++
          (spoken (pattern (pack.words .ofWords))).rewriteAfter rewriteSpoken b' r := by
  have hprefers := prefers_spoken hpack hapart ho (b := b) hm hk hr hu
  have hfound := hprefers.rewriteAfter_eq (by simp) rewriteSpoken
  rw [rewriteSpoken_of_unknown (m := ⟨_, [(3, k), (2, u), (1, m)]⟩) hunknown] at hfound
  have hrow : join [' '] [m, u, o.toList, k] =
      m ++ ' ' :: (u ++ ' ' :: (o.toList ++ ' ' :: k)) := by
    rw [join_cons_cons, join_cons_cons, join_cons_cons]
    rfl
  rw [hrow]
  exact ⟨_, hfound⟩

end Stage

/-- Digits and words have no slash. -/
theorem slash_not_mem_join {ts : List (List Char)} (hts : ∀ t ∈ ts, IsPlainDigits t ∨ IsWord t) :
    '/' ∉ join [' '] ts := by
  have hletter : isLetter '/' = false := by decide +kernel
  intro hmem
  rcases mem_join hmem with hspace | ⟨t, ht, hct⟩
  · exact absurd hspace (by decide)
  · rcases hts t ht with hdigits | hword
    · exact absurd (hdigits.2 _ hct) (by decide)
    · exact Bool.false_ne_true (hletter.symm.trans (hword.2 _ hct))

/-- An unknown word hides the fraction whose count stands behind its word for `of`. -/
theorem fractions_unknown {pack : LanguagePack} (hpack : pack ∈ builtinPacks) {lexicon : Lexicon}
    (hlexicon : Lexicon.ofPack pack = .ok lexicon) {o : String} (ho : o ∈ pack.words .ofWords)
    {a u b q : List Char} (ha : IsPlainDigits a) (hu : IsWord u)
    (hunknown : fractionDenominator? u = none) (hb : IsPlainDigits b) {f : String} {d : Nat}
    (hf : (f, d) ∈ fractionWords) (hq : IsPlainDigits q) :
    Stage.fractions.rewrite lexicon
        (join [' '] ([a, u, o.toList] ++ [b, f.toList, o.toList, q])) =
      join [' '] ([a, u, o.toList] ++ [b, f.toList, o.toList, q]) ∧
    Stage.fractions.rewrite lexicon (join [' '] [b, f.toList, o.toList, q]) =
      formula b (Nat.toDigits 10 d) q := by
  have hordinary := isOrdinary_of_mem hpack
  have hapart := isApart_of_mem hpack
  have hof := Lexicon.isOf_of_ofPack hlexicon
  have hlisted : (Share.said b f d).IsListed := ⟨hb, hf⟩
  have hword : IsWord f.toList := hlisted.isWord
  have howord : IsWord o.toList := isWord_of_ofWord hapart ho
  have hsplit : join [' '] ([a, u, o.toList] ++ [b, f.toList, o.toList, q]) =
      join [' '] [a, u, o.toList, b] ++ ((Share.said b f d).link o.toList ++ q) := by
    simp only [Share.link, Share.behind, List.cons_append, List.nil_append, join_cons_cons,
      List.append_assoc]
    rfl
  constructor
  · have hslash : '/' ∉ join [' '] ([a, u, o.toList] ++ [b, f.toList, o.toList, q]) := by
      refine slash_not_mem_join ?_
      simp only [List.cons_append, List.nil_append, List.forall_mem_cons]
      exact ⟨.inl ha, .inr hu, .inr howord, .inl hb, .inr hword, .inr howord, .inl hq, by simp⟩
    have hproper : ∀ p ∈ pack.words .ofWords, IsProper p.toList :=
      fun p hp => (hordinary.words hp).1
    -- from the fraction word on there are no digits but those of the last number
    have hquiet (b' : Option Char) : Nowhere (BehindDigits fun _ => QuantityAhead) b'
        ((Share.said b f d).link o.toList ++ q) [] :=
      nowhere_append.mpr ⟨nowhere_of_no_digit (no_digit_link howord hlisted),
        nowhere_of_digits hq.isDigits rfl fun _ => not_quantity_solid rfl⟩
    obtain ⟨b', hread⟩ := exists_rewriteAfter_unknown hordinary hapart ho ha.isDigits hu hunknown
      hb.isDigits (Share.endsOperand_link (.said b f d) o.toList q) none
    rw [Stage.rewrite, rewrite, numericFraction_idle hof hslash, hof.spokenFraction,
      pattern?_of_mem hproper ho, hsplit]
    show (spoken _).rewriteAfter rewriteSpoken none _ = _
    rw [hread, (opensAt_spoken_ofWords hapart).rewriteAfter _ (hquiet _)]
  · have hall : ∀ g ∈ [Share.said b f d], g.IsListed := List.forall_mem_singleton.mpr hlisted
    exact fractions_phrase hordinary hapart ho hq hof (s := []) (Or.inl rfl) hall

end CalcSpeech.FractionPhrase
