import CalcSpeech.FractionPhrase
import CalcSpeech.Proofs.Language.Phrases
import CalcSpeech.Proofs.Numeral
import Mathlib.Data.List.Nodup

/-!
# Fractions of a quantity

What a fraction with a fraction word is read from (`reads_spoken`), and which denominator a word has
(`fractionDenominator?_eq_some`, `fractionDenominator?_eq_none`).
-/

namespace CalcSpeech.FractionPhrase

open Unicode Pattern Text

/-- A count, a word and a quantity behind one of the words for `of`. -/
theorem reads_spoken {ofWord : Pattern}
    (hof : ∀ b w a k, ofWord.Reads b w a k → k = []) {b : Option Char} {w a : List Char}
    {k : List (Nat × List Char)} (h : (spoken ofWord).Reads b w a k) :
    ∃ n g x i o j r, w = n ++ (g ++ (x ++ (i ++ (o ++ (j ++ r))))) ∧ IsDigits n ∧
      (g ≠ [] ∧ ∀ c ∈ g, isBlank c = true) ∧ IsWord x ∧ (i ≠ [] ∧ ∀ c ∈ i, isBlank c = true) ∧
      k.lookup 2 = some x ∧ (∃ b', ofWord.Reads b' o (j ++ r ++ a) []) ∧
      (j ≠ [] ∧ ∀ c ∈ j, isBlank c = true) ∧ (r ++ a).head?.any isDecimalDigit = true := by
  obtain ⟨n, v1, k1, l1, rfl, rfl, hn, hrow1⟩ := reads_inOrder_cons.mp h
  obtain ⟨g, v2, k2, l2, rfl, rfl, hg, hrow2⟩ := reads_inOrder_cons.mp hrow1
  obtain ⟨x, v3, k3, l3, rfl, rfl, hx, hrow3⟩ := reads_inOrder_cons.mp hrow2
  obtain ⟨i, v4, k4, l4, rfl, rfl, hi, hrow4⟩ := reads_inOrder_cons.mp hrow3
  obtain ⟨o, v5, k5, l5, rfl, rfl, ho, hrow5⟩ := reads_inOrder_cons.mp hrow4
  obtain ⟨j, v6, k6, l6, rfl, rfl, hj, hq⟩ := reads_inOrder_cons.mp hrow5
  obtain ⟨hcount, rfl⟩ := (reads_group rfl).mp hn
  obtain ⟨hgne, hgap, rfl⟩ := reads_gap.mp hg
  obtain ⟨hletters, rfl⟩ := (reads_group rfl).mp hx
  obtain ⟨hine, hgap', rfl⟩ := reads_gap.mp hi
  obtain ⟨hjne, hgapj, rfl⟩ := reads_gap.mp hj
  obtain rfl := hof _ _ _ _ ho
  have hquantity : (group 3 (marked digit)).Reads _ v6 a l6 := hq
  obtain ⟨hmarked, rfl⟩ := (reads_group rfl).mp hquantity
  obtain ⟨hxne, hword, -⟩ := reads_atLeastOne_char.mp hletters
  have hopens : (marked digit).Opens isDecimalDigit := opens_atLeastOne_char.seq
  exact ⟨n, g, x, i, o, j, v6, rfl, (reads_digits.mp hcount).1, ⟨hgne, hgap⟩,
    ⟨hxne, hword⟩, ⟨hine, hgap'⟩, rfl, ⟨_, ho⟩, ⟨hjne, hgapj⟩, hopens _ _ _ _ hmarked⟩

/-! ## Fraction words -/

/-- The fraction words are small Latin words, and no two are the same. -/
theorem exists_spelled_fractionWords : ∃ ls, Spelled (fractionWords.map (·.1)) ls ∧
    (∀ l ∈ ls, l ≠ [] ∧ ∀ c ∈ l, isSmallLatin c = true) ∧ ls.Nodup := by
  constructor
  constructor
  · repeat' constructor
  · exact ⟨by decide +kernel, by decide +kernel⟩

theorem isSmall_of_fractionWord {w : String} (h : w ∈ fractionWords.map (·.1)) :
    w.toList ≠ [] ∧ ∀ c ∈ w.toList, isSmallLatin c = true := by
  obtain ⟨ls, hspelled, hsmall, -⟩ := exists_spelled_fractionWords
  apply hsmall
  rw [hspelled.eq_map]
  exact List.mem_map_of_mem h

/-- A small Latin word is looked up as it is. -/
theorem fractionDenominator?_of_small {x : List Char} (hx : ∀ c ∈ x, isSmallLatin c = true) :
    fractionDenominator? x = (fractionWords.find? (·.1.toList == x)).map (·.2) := by
  have hsolid : ∀ c ∈ x, isBlank c = false :=
    fun c hc => Vocabulary.isBlank_of_isSmallLatin (hx c hc)
  have hkey : lowercase (trim x) = x := by
    rw [trim_of_solid hsolid, lowercase,
      lowercaseAfter_of_steady fun c hc => steady_of_isSmallLatin (hx c hc)]
  unfold fractionDenominator?
  simp only
  rw [hkey]

/-- A small Latin word that is no fraction word has no denominator. -/
theorem fractionDenominator?_eq_none {x : List Char} (hx : ∀ c ∈ x, isSmallLatin c = true)
    (hne : x ∉ (fractionWords.map (·.1)).map String.toList) : fractionDenominator? x = none := by
  have hfind : fractionWords.find? (·.1.toList == x) = none := by
    rw [List.find?_eq_none]
    intro e he heq
    apply hne
    rw [← beq_iff_eq.mp heq]
    exact List.mem_map_of_mem (List.mem_map_of_mem he)
  rw [fractionDenominator?_of_small hx, hfind]
  rfl

/-- A fraction word has the denominator that is listed with it. -/
theorem fractionDenominator?_eq_some {w : String} {d : Nat} (h : (w, d) ∈ fractionWords) :
    fractionDenominator? w.toList = some d := by
  obtain ⟨ls, hspelled, -, hnodup⟩ := exists_spelled_fractionWords
  rw [hspelled.eq_map, List.map_map] at hnodup
  -- no two entries have the same word, so the one that is found is the one that was given
  obtain ⟨e, hfind⟩ : ∃ e, fractionWords.find? (·.1.toList == w.toList) = some e :=
    Option.isSome_iff_exists.mp (List.find?_isSome.mpr ⟨_, h, by simp⟩)
  have hsame : e.1.toList = w.toList := by simpa using List.find?_some hfind
  obtain rfl : e = (w, d) :=
    List.inj_on_of_nodup_map hnodup (List.mem_of_find?_eq_some hfind) h hsame
  rw [fractionDenominator?_of_small (isSmall_of_fractionWord (List.mem_map_of_mem h)).2, hfind]
  rfl

/-- A phrase with another word stays as it is. -/
theorem rewriteSpoken_of_unknown {m : Match} (h : fractionDenominator? (m.group 2) = none) :
    rewriteSpoken m = m.text := by
  rw [rewriteSpoken, h]

/-- A phrase with a fraction word becomes the formula with its denominator. -/
theorem rewriteSpoken_of_denominator {m : Match} {d : Nat}
    (h : fractionDenominator? (m.group 2) = some d) :
    rewriteSpoken m = formula (m.group 1) (Nat.toDigits 10 d) (m.group 3) := by
  rw [rewriteSpoken, h]

end CalcSpeech.FractionPhrase
