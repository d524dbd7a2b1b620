import CalcSpeech.Proofs.Pattern.Context
import CalcSpeech.Proofs.Pattern.Digits
import CalcSpeech.Proofs.Written.Reading

/-!
# Commas in front of a numeral

Commas in front of a written numeral are not looked at before they are dropped, so that the stages
behind the scale words make the same of the numeral with them and without them
(`rewriteAll_written`).
-/

namespace CalcSpeech

open Unicode Pattern Text NumeralMark Expression

/-! ## Stages that begin with a digit -/

section Opens

variable {cs t : List Char} (hcs : ∀ c ∈ cs, c = ',')

include hcs in
/-- What begins with a digit is not found in front of a numeral. -/
theorem rewrite_commas {p : Pattern} (hp : p.Opens isDecimalDigit) (change : Match → List Char)
    (t : List Char) : p.rewrite change (cs ++ t) = cs ++ p.rewrite change t := by
  refine rewrite_append change (OpensAt.quiet hp (nowhere_head ?_)) (any_behind rfl ?_)
  · intro c hc
    rw [hcs c hc]
    exact isDecimalDigit_comma
  · intro c hc
    rw [hcs c hc]
    decide

theorem opens_upToThree : (upToThree digit).Opens isDecimalDigit :=
  OpensAt.alt opens_char.seq (OpensAt.alt opens_char.seq opens_char)

theorem opens_marks : periodGroups.Opens isDecimalDigit ∧ commaGroups.Opens isDecimalDigit ∧
    spacedPoint.Opens isDecimalDigit ∧ decimalComma.Opens isDecimalDigit :=
  ⟨opensAt_boundary opens_upToThree.seq, opensAt_boundary opens_upToThree.seq,
    (opens_char.group 1).seq, (opens_atLeastOne_char.group 1).seq⟩

theorem opens_spokenPoint {pack : LanguagePack} {p : Pattern} (hp : spokenPoint? pack = some p) :
    p.Opens isDecimalDigit := by
  unfold spokenPoint? at hp
  simp only at hp
  split at hp
  · cases hp
  · obtain rfl := Option.some.inj hp
    exact (opens_char.group 1).seq

include hcs in
/-- The marks behind some commas are read as if these were not there. -/
theorem numeralMarks_commas (pack : LanguagePack) (t : List Char) :
    NumeralMark.rewrite pack.decimalMark (spokenPoint? pack) (cs ++ t) =
      cs ++ NumeralMark.rewrite pack.decimalMark (spokenPoint? pack) t := by
  obtain ⟨hperiods, hgroups, hspaced, hdecimal⟩ := opens_marks
  have hplain : cs.map plainSpace = cs := by
    apply plainSpaces_eq_self
    intro c hc
    rw [hcs c hc]
    decide
  have hspoken (t : List Char) : rewriteSpoken pack.decimalMark (spokenPoint? pack) (cs ++ t) =
      cs ++ rewriteSpoken pack.decimalMark (spokenPoint? pack) t := by
    cases hp : spokenPoint? pack with
    | none => rfl
    | some p =>
      have hpoint := opens_spokenPoint hp
      unfold rewriteSpoken
      cases pack.decimalMark with
      | period => exact rewrite_commas hcs hpoint pointed t
      | comma =>
        simp only
        rw [rewrite_commas hcs hperiods, rewrite_commas hcs hpoint]
  unfold NumeralMark.rewrite
  simp only
  rw [List.map_append, hplain, hspoken, rewrite_commas hcs hspaced, rewrite_commas hcs hgroups,
    rewrite_commas hcs hdecimal]

end Opens

/-! ## Cleanup -/

/-- A blank for a comma. -/
def blankComma (c : Char) : Char := if c = ',' then ' ' else c

/-- A full stop does not stand in a numeral that ends with a digit. -/
theorem nowhere_stop {u : List Char} (hu : AreNumeric u)
    (hlast : u.getLast?.any Char.isDigit = true) : Nowhere StopAt none u [] := by
  rintro v c w huw ⟨r, hr, hblank⟩
  obtain ⟨rfl, rfl⟩ := List.cons.inj hr
  cases w with
  | nil =>
    have hperiod : Char.isDigit '.' = true := by
      rw [huw, List.getLast?_append] at hlast
      exact hlast
    exact absurd hperiod (by decide)
  | cons d w =>
    have hsolid : isBlank d = false := solid_of_numeric hu d (by rw [huw]; simp)
    exact Bool.false_ne_true (hsolid.symm.trans hblank)

/-- Of a numeral with its commas only these are changed. -/
theorem canonicalize_numeric {u : List Char} (hu : AreNumeric u)
    (hlast : u.getLast?.any Char.isDigit = true) :
    canonicalize u = collapse (u.map blankComma) := by
  have hnone {cs : List Char} (hcs : ∀ d ∈ cs, isDecimalDigit d = false)
      (hmarks : cs.contains '.' = false ∧ cs.contains ',' = false) :
      ∀ c ∈ u, cs.contains c = false :=
    eq_false_of_numeric hu (fun c hc => PercentPhrase.contains_of_isDecimalDigit hcs
      (isDecimalDigit_of_isDigit hc)) hmarks
  -- no letter or mark is in a numeral, so what is blanked out are its commas
  have hfiller : u.map blankFiller = u.map blankComma := by
    refine List.map_congr_left fun c hc => ?_
    rcases hu c hc with hdigit | rfl | rfl
    · have hdecimal := isDecimalDigit_of_isDigit hdigit
      have hcomma : c ≠ ',' := by
        rintro rfl
        exact absurd hdigit (by decide)
      rw [blankFiller, isFiller, isLetter_of_isDecimalDigit hdecimal,
        isMark_of_isDecimalDigit hdecimal, beq_eq_false_iff_ne.mpr hcomma, blankComma,
        if_neg hcomma]
      rfl
    · decide
    · decide
  have hother {d : Char} (hd : d.isDigit = false ∧ d ≠ ' ' ∧ d ≠ '.' ∧ d ≠ ',') :
      d ∉ u ∧ d ∉ u.map blankComma := by
    obtain ⟨hno, hspace, hperiod, hcomma⟩ := hd
    have hnot : d ∉ u := by
      intro hmem
      rcases hu d hmem with h | h | h
      · exact Bool.false_ne_true (hno.symm.trans h)
      · exact hperiod h
      · exact hcomma h
    refine ⟨hnot, fun hmem => ?_⟩
    obtain ⟨c, hc, hcd⟩ := List.mem_map.mp hmem
    unfold blankComma at hcd
    split at hcd
    · exact hspace hcd.symm
    · exact hnot (hcd ▸ hc)
  -- roots, plus signs and full stops are looked for in vain
  obtain ⟨hsign, hsign'⟩ := hother (d := rootSign) (by decide)
  have hplus : Nowhere DoublePlusAt none (u.map blankComma) [] :=
    nowhere_of_not_mem (fun _ _ => DoublePlusAt.head) (hother (by decide)).2
  have hroots : showRoots (u.map blankFiller) = u.map blankComma := by
    rw [hfiller, showRoots_eq_self hsign']
  have hfilled := canonicalize_eq_filled
    (fun c hc => ⟨hnone (by decide +kernel) (by decide) c hc, hnone (by decide +kernel) (by decide) c hc⟩)
    (hother (by decide)).1 (nowhere_stop hu hlast) (hroots.symm ▸ hplus)
  rwa [hroots, showRoots_eq_self hsign] at hfilled

/-- Commas in front are dropped. -/
theorem collapse_commas {cs : List Char} (hcs : ∀ c ∈ cs, c = ',') (u : List Char) :
    collapse ((cs ++ u).map blankComma) = collapse (u.map blankComma) := by
  induction cs with
  | nil => rfl
  | cons c cs ih =>
    obtain ⟨rfl, hrest⟩ := List.forall_mem_cons.mp hcs
    rw [← ih hrest]
    show Text.join [' '] (words (' ' :: (cs ++ u).map blankComma)) = _
    rw [words_space]
    rfl

/-- If a single word is left of a numeral it has no commas. -/
theorem eq_of_collapse {u n : List Char} (hu : IsWritten u) (hn : ∀ c ∈ n, isBlank c = false)
    (h : collapse (u.map blankComma) = n) : u = n := by
  obtain ⟨hnumeric, hhead, hlast⟩ := hu
  have hsolid := solid_of_numeric hnumeric
  have hsame {v : List Char} (hv : ',' ∉ v) : v.map blankComma = v := by
    rw [List.map_congr_left (g := id), List.map_id]
    intro c hc
    rw [blankComma, if_neg]
    · rfl
    · rintro rfl
      exact hv hc
  -- a comma has a word on either side, and two words do not make one
  by_cases hcomma : ',' ∈ u
  · obtain ⟨y, z, rfl, hy⟩ := List.eq_append_cons_of_mem hcomma
    have hne : y ≠ [] := by
      rintro rfl
      have hdigit : Char.isDigit ',' = true := hhead
      exact absurd hdigit (by decide)
    obtain ⟨d, hd, hdigit⟩ : ∃ d ∈ z, d.isDigit = true := by
      by_cases hz : z = []
      · rw [hz, List.getLast?_append] at hlast
        have hdigit : Char.isDigit ',' = true := hlast
        exact absurd hdigit (by decide)
      · refine ⟨z.getLast hz, List.getLast_mem hz, ?_⟩
        have hdigit : (y ++ [','] ++ z).getLast?.any Char.isDigit = true := by
          rw [List.append_assoc]
          exact hlast
        rw [List.getLast?_append_of_ne_nil _ hz, List.getLast?_eq_some_getLast hz] at hdigit
        exact hdigit
    have hmem : d ∈ z.map blankComma := by
      refine List.mem_map.mpr ⟨d, hd, if_neg ?_⟩
      rintro rfl
      exact absurd hdigit (by decide)
    have hwords : words (z.map blankComma) ≠ [] :=
      words_ne_nil_of_mem hmem (isBlank_of_isDecimalDigit (isDecimalDigit_of_isDigit hdigit))
    have hspace : ' ' ∈ collapse ((y ++ ',' :: z).map blankComma) := by
      rw [List.map_append, List.map_cons, hsame hy]
      have hrow : collapse (y ++ ' ' :: z.map blankComma) =
          Text.join [' '] ([y] ++ words (z.map blankComma)) := by
        rw [collapse, words_append_space hne fun c hc => hsolid c (List.mem_append_left _ hc)]
        rfl
      show ' ' ∈ collapse (y ++ ' ' :: z.map blankComma)
      rw [hrow, join_append (List.cons_ne_nil _ _) hwords]
      simp
    have hblank := hn ' ' (h ▸ hspace)
    exact absurd hblank (by decide)
  · have hne : u ≠ [] := by
      rintro rfl
      exact Bool.noConfusion hhead
    rw [hsame hcomma, collapse, words_of_solid hne hsolid] at h
    exact h

/-- Digits, periods and spaces are left of a numeral. -/
theorem mem_collapse_numeric {u : List Char} (hu : AreNumeric u) :
    ∀ c ∈ collapse (u.map blankComma), c = ' ' ∨ c.isDigit = true ∨ c = '.' := by
  intro c hc
  rcases Vocabulary.mem_join hc with rfl | ⟨w, hw, hc⟩
  · exact Or.inl rfl
  · have hflat := flatten_wordsAfter [] (u.map blankComma)
    have hmem : c ∈ (wordsAfter [] (u.map blankComma)).flatten := List.mem_flatten.mpr ⟨w, hw, hc⟩
    rw [hflat] at hmem
    obtain ⟨d, hd, rfl⟩ := List.mem_map.mp (List.mem_filter.mp hmem).1
    rcases hu d hd with hdigit | rfl | rfl
    · refine Or.inr (Or.inl ?_)
      rw [blankComma, if_neg]
      · exact hdigit
      · rintro rfl
        exact absurd hdigit (by decide)
    · exact Or.inr (Or.inr rfl)
    · exact Or.inl rfl

/-! ## The stages behind the scale words -/

section Stages

variable {pack : LanguagePack} (hpack : pack.IsOrdinary) {lexicon : Lexicon}
  (hof : lexicon.IsOf pack) {cs t : List Char} (hcs : ∀ c ∈ cs, c = ',') (ht : IsWritten t)

include hpack hof hcs ht

/-- What the stages behind the scale words make of a written numeral. -/
theorem rewriteAll_written :
    Stage.rewriteAll [.fractions, .numeralMarks, .percentages, .operators, .cleanup] lexicon
      (cs ++ t) = collapse ((NumeralMark.rewrite pack.decimalMark (spokenPoint? pack) t).map
        blankComma) := by
  have hnumeric {u : List Char} (hu : IsWritten u) : AreNumeric (cs ++ u) := by
    intro c hc
    rcases List.mem_append.mp hc with hc | hc
    · exact Or.inr (Or.inr (hcs c hc))
    · exact hu.numeric c hc
  have hu := isWritten_rewrite hpack ht
  have hmarks := numeralMarks_commas hcs pack t
  generalize NumeralMark.rewrite pack.decimalMark (spokenPoint? pack) t = u at hu hmarks ⊢
  have hsilent := silent_of_numeric (hnumeric hu)
  have hlast := any_getLast?_append hu.last cs
  have hpercent : '%' ∉ cs ++ u := by
    intro hmem
    rcases hnumeric hu _ hmem with h | h | h <;> exact absurd h (by decide)
  have hclean := canonicalize_numeric (hnumeric hu) hlast
  rw [collapse_commas hcs] at hclean
  have hleft := mem_collapse_numeric hu.numeric
  have hsilent' : Silent (collapse (u.map blankComma)) := by
    intro c hc
    rcases hleft c hc with rfl | hdigit | rfl
    · decide
    · exact isVerbal_of_isDecimalDigit (isDecimalDigit_of_isDigit hdigit)
    · decide
  have hpercent' : '%' ∉ collapse (u.map blankComma) := by
    intro hmem
    rcases hleft _ hmem with h | h | h <;> exact absurd h (by decide)
  simp only [Stage.rewriteAll, List.foldl_cons, List.foldl_nil, Stage.rewrite]
  rw [fractions_of_silent hpack hof (silent_of_numeric (hnumeric ht)), hof.pack_eq,
    hof.decimalPoint, hmarks, hof.percent, percentages_of_silent hpack hsilent,
    PercentPhrase.rewritePlusMinus_of_silent hpack hsilent hpercent,
    operators_of_silent hpack hof hsilent, Expression.rewrite, hclean,
    PercentPhrase.rewritePlusMinus_of_silent hpack hsilent' hpercent']

end Stages

end CalcSpeech
