import CalcSpeech.Proofs.Language.Phrases
import CalcSpeech.Proofs.Lexicon
import CalcSpeech.Proofs.Text.Lowercase
import CalcSpeech.Proofs.Vocabulary.Found
import CalcSpeech.Proofs.Written.Marks
import CalcSpeech.Stage

/-!
# The digits of numerals

Reading the marks of numerals is a row of rewritings, each of which reads digits on both sides of a
mark and puts them back. None of them loses a digit, adds one or changes their order, as long as no
word for the decimal point has a digit in it (`numeralMarks_conserves`).
-/

namespace CalcSpeech

open Unicode Pattern

namespace Unicode

/-- No small form in the case table is a digit. -/
theorem smallFormsMiss_digitSpans : smallFormsMiss digitSpans = true ∧
    ∀ span ∈ digitSpans, 0 < span.1 := by decide +kernel

/-- A character that is no digit has none among its small forms. -/
theorem not_digit_lowercaseAlone {c : Char} (h : isDecimalDigit c = false) :
    ∀ d ∈ lowercaseAlone c, isDecimalDigit d = false := by
  unfold lowercaseAlone
  split
  · rename_i hascii
    have hall : ∀ n < 0x80, isDecimalDigit (Char.ofNat n).toLower =
        isDecimalDigit (Char.ofNat n) := by decide
    rw [List.forall_mem_singleton, ← h]
    exact forall_char_lt (fun c => isDecimalDigit c.toLower = isDecimalDigit c) hall hascii
  · split
    · decide +kernel
    · split
      · rename_i run hrun
        rw [List.forall_mem_singleton, Bool.eq_false_iff]
        intro hdigit
        exact not_inside_of_run smallFormsMiss_digitSpans.1 smallFormsMiss_digitSpans.2
          (List.mem_of_find?_eq_some hrun) (by simpa using List.find?_some hrun)
          (inside_of_isDecimalDigit hdigit)
      · exact List.forall_mem_singleton.mpr h

/-- A text without digits has none in lowercase. -/
theorem not_digit_lowercase {text : List Char} (h : ∀ c ∈ text, isDecimalDigit c = false) :
    ∀ d ∈ lowercase text, isDecimalDigit d = false := by
  have hafter (before : List Char) : ∀ d ∈ lowercaseAfter before text,
      isDecimalDigit d = false := by
    induction text generalizing before with
    | nil =>
      intro d hd
      cases hd
    | cons c rest ih =>
      obtain ⟨hc, hrest⟩ := List.forall_mem_cons.mp h
      rw [lowercaseAfter]
      refine List.forall_mem_append.mpr ⟨?_, ih hrest _⟩
      split
      · split <;> decide +kernel
      · exact not_digit_lowercaseAlone hc
  exact hafter []

end Unicode

namespace NumeralMark

variable {b : Option Char} {w a : List Char} {k : List (Nat × List Char)}

/-- Digits and what stands between them lose no digit when a period takes the place of the
latter. -/
theorem filter_pointed (d e : Char) {u : List Char} (hu : ∀ c ∈ u, isDecimalDigit c = false) :
    (pointed ⟨d :: (u ++ [e]), [(2, [e]), (1, [d])]⟩).filter isDecimalDigit =
      (d :: (u ++ [e])).filter isDecimalDigit := by
  have hnone : u.filter isDecimalDigit = [] :=
    List.filter_eq_nil_iff.mpr fun c hc => by simp [hu c hc]
  have hpointed : pointed ⟨d :: (u ++ [e]), [(2, [e]), (1, [d])]⟩ = [d] ++ (['.'] ++ [e]) := rfl
  have hpoint : ['.'].filter isDecimalDigit = [] := by decide
  have htext : d :: (u ++ [e]) = [d] ++ (u ++ [e]) := rfl
  rw [hpointed, htext, List.filter_append, List.filter_append, List.filter_append,
    List.filter_append, hpoint, hnone]

/-- No digit is read with one of some phrases that have none. -/
theorem not_digit_of_finds {phrases : List String}
    (hphrases : ∀ phrase ∈ phrases, ∀ c ∈ phrase.toList, isDecimalDigit c = false)
    (h : Vocabulary.Finds phrases b w a) : ∀ c ∈ w, isDecimalDigit c = false := by
  obtain ⟨e, he, hfits⟩ := h
  obtain ⟨-, phrase, hphrase, rfl⟩ := Vocabulary.mem_entries.mp he
  intro c hc
  rcases hfits.spells.blank_or_mem hc with hblank | hmem
  · exact isDecimalDigit_of_isBlank hblank
  · refine not_digit_lowercase (fun d hd => ?_) c hmem
    by_cases hblank : isBlank d = true
    · exact isDecimalDigit_of_isBlank hblank
    · -- what is no blank was in the phrase before its gaps were collapsed
      have hsolid : d ∈ (Text.collapse phrase.toList).filter (!isBlank ·) :=
        List.mem_filter.mpr ⟨hd, by simpa using hblank⟩
      rw [Text.filter_collapse] at hsolid
      exact hphrases phrase hphrase d (List.mem_filter.mp hsolid).1

/-- A decimal point as a language speaks or writes it stands between two digits and has none. -/
theorem exists_of_reads_spokenPoint {pack : LanguagePack} {p : Pattern}
    (hp : spokenPoint? pack = some p)
    (hwords : ∀ word ∈ pack.words .decimalWords, ∀ c ∈ word.toList, isDecimalDigit c = false)
    (h : p.Reads b w a k) : ∃ d u e, w = d :: (u ++ [e]) ∧ k = [(2, [e]), (1, [d])] ∧
      ∀ c ∈ u, isDecimalDigit c = false := by
  unfold spokenPoint? at hp
  simp only at hp
  split at hp
  · cases hp
  · obtain rfl := Option.some.inj hp
    obtain ⟨x, v, kx, kv, rfl, rfl, hfirst, hrow⟩ := reads_inOrder_cons.mp h
    obtain ⟨u, y, ku, ky, rfl, rfl, hpoint, hlast⟩ := reads_inOrder_cons.mp hrow
    obtain ⟨hleft, rfl⟩ := (reads_group rfl).mp hfirst
    obtain ⟨hright, rfl⟩ := (reads_group rfl).mp hlast
    obtain ⟨d, rfl, -, -⟩ := reads_digit.mp hleft
    obtain ⟨e, rfl, -, -⟩ := reads_digit.mp hright
    obtain ⟨q, hq, hread⟩ := reads_oneOf.mp hpoint
    suffices hu : ku = [] ∧ ∀ c ∈ u, isDecimalDigit c = false by
      obtain ⟨rfl, hnone⟩ := hu
      exact ⟨d, u, e, rfl, rfl, hnone⟩
    rcases List.mem_append.mp hq with hspoken | hwritten
    · obtain ⟨word, hword, rfl⟩ := Option.map_eq_some_iff.mp (Option.mem_toList.mp hspoken)
      obtain rfl := Vocabulary.eq_pattern_of_pattern? hword
      obtain ⟨g, v, _, _, rfl, rfl, hblanks, hrest⟩ := reads_inOrder_cons.mp hread
      obtain ⟨t, g', _, _, rfl, rfl, hfound, hblanks'⟩ := reads_inOrder_cons.mp hrest
      obtain ⟨hg, rfl⟩ := reads_many_char.mp hblanks
      obtain ⟨rfl, hfinds⟩ := Vocabulary.reads_pattern.mp hfound
      obtain ⟨hg', rfl⟩ := reads_many_char.mp hblanks'
      refine ⟨rfl, List.forall_mem_append.mpr ⟨?_, List.forall_mem_append.mpr ⟨?_, ?_⟩⟩⟩
      · exact fun c hc => isDecimalDigit_of_isBlank (hg c hc)
      · exact not_digit_of_finds hwords hfinds
      · exact fun c hc => isDecimalDigit_of_isBlank (hg' c hc)
    · cases hmark : pack.decimalMark with
      | period => simp [hmark] at hwritten
      | comma =>
        obtain rfl : q = just ',' := by simpa [hmark] using hwritten
        obtain ⟨rfl, rfl⟩ := reads_just.mp hread
        exact ⟨rfl, List.forall_mem_singleton.mpr isDecimalDigit_comma⟩

theorem filter_spokenPoint {pack : LanguagePack}
    (hwords : ∀ word ∈ pack.words .decimalWords, ∀ c ∈ word.toList, isDecimalDigit c = false)
    {p : Pattern} (hp : spokenPoint? pack = some p) (text : List Char) :
    (p.rewrite pointed text).filter isDecimalDigit = text.filter isDecimalDigit := by
  apply filter_rewriteAfter
  intro b m a hread
  obtain ⟨d, u, e, htext, hgroups, hu⟩ := exists_of_reads_spokenPoint hp hwords hread
  have hm : m = ⟨d :: (u ++ [e]), [(2, [e]), (1, [d])]⟩ := by rw [← htext, ← hgroups]
  rw [hm]
  exact filter_pointed d e hu

theorem filter_spacedPoint (text : List Char) :
    (spacedPoint.rewrite pointed text).filter isDecimalDigit = text.filter isDecimalDigit := by
  apply filter_rewriteAfter
  intro b m a hread
  obtain ⟨d, g, g', e, htext, -, hg, hg', -, hgroups⟩ := reads_spacedPoint.mp hread
  have hm : m = ⟨d :: ((g ++ '.' :: g') ++ [e]), [(2, [e]), (1, [d])]⟩ := by
    rw [List.append_assoc, List.cons_append, ← htext, ← hgroups]
  rw [hm]
  apply filter_pointed
  refine List.forall_mem_append.mpr ⟨fun c hc => isDecimalDigit_of_isBlank (hg c hc), ?_⟩
  exact List.forall_mem_cons.mpr
    ⟨by decide, fun c hc => isDecimalDigit_of_isBlank (hg' c hc)⟩

/-- Where marks that are no digits are dropped, or periods written for them, the digits stay. -/
theorem Replaces.digits {m : Char} {P : List Char → Prop} {out u v : List Char}
    (h : Replaces m P out b u v) (hm : isDecimalDigit m = false)
    (hout : out = [] ∨ out = ['.']) : v.filter isDecimalDigit = u.filter isDecimalDigit := by
  apply h.filter hm
  rcases hout with rfl | rfl
  · exact fun c hc => absurd hc List.not_mem_nil
  · exact List.forall_mem_singleton.mpr (by decide)

theorem filter_periodGroups (text : List Char) :
    (periodGroups.rewrite (without '.') text).filter isDecimalDigit =
      text.filter isDecimalDigit :=
  (replaces_periodGroups none text).digits (by decide) (Or.inl rfl)

theorem filter_commaGroups (text : List Char) :
    (commaGroups.rewrite (without ',') text).filter isDecimalDigit =
      text.filter isDecimalDigit :=
  (replaces_commaGroups none text).digits isDecimalDigit_comma (Or.inl rfl)

theorem filter_decimalComma (text : List Char) :
    (decimalComma.rewrite pointed text).filter isDecimalDigit = text.filter isDecimalDigit :=
  (replaces_decimalComma none text).digits isDecimalDigit_comma (Or.inr rfl)

theorem filter_rewriteSpoken {pack : LanguagePack}
    (hwords : ∀ word ∈ pack.words .decimalWords, ∀ c ∈ word.toList, isDecimalDigit c = false)
    (mark : DecimalMark) (text : List Char) :
    (rewriteSpoken mark (spokenPoint? pack) text).filter isDecimalDigit =
      text.filter isDecimalDigit := by
  unfold rewriteSpoken
  split
  · rfl
  · rename_i point hp
    cases mark with
    | period => exact filter_spokenPoint hwords hp text
    | comma =>
      show (point.rewrite pointed (periodGroups.rewrite (without '.') text)).filter _ = _
      rw [filter_spokenPoint hwords hp, filter_periodGroups]

/-- The spaces inside numerals are no digits, and neither is the plain space. -/
theorem filter_plainSpaces (text : List Char) :
    (text.map plainSpace).filter isDecimalDigit = text.filter isDecimalDigit := by
  apply Text.filter_map_eq
  · intro c hc
    apply plainSpace_of_solid
    exact isBlank_of_isDecimalDigit hc
  · intro c hc
    unfold plainSpace
    split
    · decide
    · exact hc

end NumeralMark

open NumeralMark

/-- Reading the marks of numerals leaves the digits of a text as they are, in their order. -/
theorem numeralMarks_conserves {pack : LanguagePack} {lexicon : Lexicon}
    (hlexicon : Lexicon.ofPack pack = .ok lexicon)
    (hwords : ∀ word ∈ pack.words .decimalWords, ∀ c ∈ word.toList, isDecimalDigit c = false)
    (text : List Char) :
    (Stage.numeralMarks.rewrite lexicon text).filter isDecimalDigit =
      text.filter isDecimalDigit := by
  show (NumeralMark.rewrite lexicon.pack.decimalMark lexicon.decimalPoint text).filter _ = _
  rw [(Lexicon.isOf_of_ofPack hlexicon).decimalPoint, NumeralMark.rewrite, filter_decimalComma,
    filter_commaGroups, filter_spacedPoint, filter_rewriteSpoken hwords, filter_plainSpaces]

/-- A grouped numeral with a spoken decimal point in French, and a list. -/
theorem numeralMarks_conserves_french :
    ∃ lexicon, Lexicon.ofPack french = .ok lexicon ∧
      (∀ word ∈ french.words .decimalWords, ∀ c ∈ word.toList, isDecimalDigit c = false) ∧
      (Stage.numeralMarks.rewrite lexicon "1.234,5 + 3 virgule 5 . 6, 7".toList).filter
        isDecimalDigit = "123453567".toList := by
  have hpack : french ∈ builtinPacks := by simp [builtinPacks]
  obtain ⟨lexicon, hlexicon, -⟩ := Lexicon.exists_of_mem hpack
  have hwords : ∀ word ∈ french.words .decimalWords, ∀ c ∈ word.toList,
      isDecimalDigit c = false := by decide +kernel
  exact ⟨lexicon, hlexicon, hwords, (numeralMarks_conserves hlexicon hwords _).trans (by decide)⟩

end CalcSpeech
