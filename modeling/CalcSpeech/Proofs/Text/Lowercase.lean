import CalcSpeech.Proofs.Text.Words
import CalcSpeech.Proofs.Unicode.Spoken

/-!
# Lowercase word by word

How a capital sigma is written depends on the characters around it, but on none beyond a blank.
So a text is made lowercase word by word (`words_lowercase`), and it makes no difference whether
its gaps are collapsed before that or behind it (`lowercase_collapse`).
-/

namespace CalcSpeech.Unicode

open Text

/-! ## The small forms of blanks and of other characters -/

/-- Whether the small forms of the case table lie in front of each of some spans or behind it. -/
def smallFormsMiss (spans : List Span) : Bool :=
  caseRuns.all fun run => spans.all fun span =>
    span.2 ≤ run.first + run.shift || run.last + run.shift < span.1

/-- What sweeps over the blanks and the case tables find. -/
structure BlankSweeps : Prop where
  sound : casedPoints.Sound ∧ caseIgnorablePoints.Sound
  ascending : Ascending casedPoints.spans ∧ Ascending caseIgnorablePoints.spans
  runs : apart 2000 blankSpans (caseRuns.map fun run => (run.first, run.last + 1)) = true
  cased : apart 2000 blankSpans casedPoints.spans = true
  ignorable : apart 2000 blankSpans caseIgnorablePoints.spans = true
  capitals : isBlank 'İ' = false ∧ isBlank 'Σ' = false
  smallForms : smallFormsMiss blankSpans = true

theorem blankSweeps : BlankSweeps := by
  constructor <;> decide +kernel

/-- The only blanks of ASCII are the space and five controls. -/
theorem ascii_of_isBlank {c : Char} (h : isBlank c = true) (hascii : c.toNat < 0x80) :
    c.toNat ≤ 0x20 := by
  obtain ⟨span, hspan, hlow, hhigh⟩ := isBlank_iff.mp h
  have hall : ∀ span ∈ blankSpans, span.1 < 0x80 → span.2 ≤ 0x21 := by decide
  have := hall span hspan (by omega)
  omega

/-- A blank is its own small form. -/
theorem lowercaseAlone_of_isBlank {c : Char} (h : isBlank c = true) : lowercaseAlone c = [c] := by
  rcases Nat.lt_or_ge c.toNat 0x80 with hascii | hascii
  · have hlow := ascii_of_isBlank h hascii
    rw [lowercaseAlone, if_pos hascii, toLower_of_not_upper (by omega)]
  · apply lowercaseAlone_of_not_inside hascii
    · rintro rfl
      rw [(blankSweeps).capitals.1] at h
      exact Bool.false_ne_true h
    · exact not_inside_of_apart ascending_blankSpans (spokenSweeps).ascending.1 (blankSweeps).runs
        (isBlank_iff.mp h)

/-- A blank is neither cased nor passed over where a word's end is looked for. -/
theorem case_of_isBlank {c : Char} (h : isBlank c = true) :
    isCased c = false ∧ isCaseIgnorable c = false := by
  have hinside := isBlank_iff.mp h
  unfold isCased isCaseIgnorable
  split
  · rename_i hascii
    have hall : ∀ n < 0x21, (Char.ofNat n).isAlpha = false ∧
        asciiCaseIgnorable.contains (Char.ofNat n) = false := by decide
    have hlow := ascii_of_isBlank h hascii
    exact forall_char_lt (fun c => c.isAlpha = false ∧ asciiCaseIgnorable.contains c = false)
      hall (by omega)
  · rw [Bool.eq_false_iff, Bool.eq_false_iff, ne_eq, ne_eq,
      SwitchPoints.contains_iff (blankSweeps).sound.1, SwitchPoints.contains_iff (blankSweeps).sound.2]
    exact ⟨not_inside_of_apart ascending_blankSpans (blankSweeps).ascending.1 (blankSweeps).cased
      hinside, not_inside_of_apart ascending_blankSpans (blankSweeps).ascending.2
      (blankSweeps).ignorable hinside⟩

/-- No run of the case table leads into spans that the small forms miss. -/
theorem not_inside_of_run {spans : List Span} (hmiss : smallFormsMiss spans = true)
    (hpositive : ∀ span ∈ spans, 0 < span.1) {run : CaseRun} (hrun : run ∈ caseRuns) {n : Nat}
    (hn : run.covers n = true) : ¬ Inside spans (Char.ofNat (n + run.shift).toNat).toNat := by
  simp only [CaseRun.covers, Bool.and_eq_true, decide_eq_true_eq] at hn
  intro hinside
  obtain ⟨span, hspan, hlow, hhigh⟩ := hinside
  have hstart := hpositive span hspan
  have hapart := List.all_eq_true.mp (List.all_eq_true.mp hmiss run hrun) span hspan
  rw [Bool.or_eq_true, decide_eq_true_eq, decide_eq_true_eq] at hapart
  rcases toNat_ofNat_cases (n + run.shift).toNat with hpoint | hzero
  · rw [hpoint] at hlow hhigh
    omega
  · rw [hzero] at hlow
    exact absurd hstart (Nat.not_lt.mpr hlow)

/-- No run of the case table leads to a blank. -/
theorem isBlank_of_run {run : CaseRun} (hrun : run ∈ caseRuns) {n : Nat}
    (hn : run.covers n = true) : isBlank (Char.ofNat (n + run.shift).toNat) = false := by
  rw [Bool.eq_false_iff, ne_eq, isBlank_iff]
  exact not_inside_of_run (blankSweeps).smallForms (by decide) hrun hn

/-- A character that is no blank has small forms that are none either, at least one. -/
theorem solid_lowercaseAlone {c : Char} (h : isBlank c = false) :
    lowercaseAlone c ≠ [] ∧ ∀ d ∈ lowercaseAlone c, isBlank d = false := by
  unfold lowercaseAlone
  split
  · rename_i hascii
    have hall : ∀ n < 0x80, isBlank (Char.ofNat n).toLower = isBlank (Char.ofNat n) := by decide
    refine ⟨List.cons_ne_nil _ _, List.forall_mem_singleton.mpr ?_⟩
    rw [← h]
    exact forall_char_lt (fun c => isBlank c.toLower = isBlank c) hall hascii
  · split
    · exact ⟨List.cons_ne_nil _ _, by decide⟩
    · split
      · rename_i run hrun
        exact ⟨List.cons_ne_nil _ _, List.forall_mem_singleton.mpr
          (isBlank_of_run (List.mem_of_find?_eq_some hrun)
            (by simpa using List.find?_some hrun))⟩
      · exact ⟨List.cons_ne_nil _ _, List.forall_mem_singleton.mpr h⟩

/-! ## No word's end is looked for beyond a blank -/

/-- A text that is empty or begins with a blank. -/
def Cut (text : List Char) : Prop := ∀ c ∈ text.head?, isBlank c = true

theorem cut_nil : Cut [] := by
  intro c hc
  cases hc

theorem cut_cons {c : Char} (hc : isBlank c = true) (rest : List Char) : Cut (c :: rest) := by
  intro d hd
  rwa [← Option.some.inj hd]

/-- What is cased ahead does not depend on what lies beyond a blank. -/
theorem casedAhead_append {text : List Char} (h : Cut text) (u : List Char) :
    casedAhead (u ++ text) = casedAhead u := by
  unfold casedAhead
  induction u with
  | nil =>
    cases text with
    | nil => rfl
    | cons c text =>
      obtain ⟨hcased, hignorable⟩ := case_of_isBlank (h c rfl)
      simp [hcased, hignorable]
  | cons c u ih =>
    rw [List.cons_append, List.dropWhile_cons, List.dropWhile_cons]
    split
    · exact ih
    · rfl

/-- Between two cuts a text is made lowercase as if it stood alone. -/
theorem lowercaseAfter_append_cut {before text : List Char} (hbefore : Cut before)
    (htext : Cut text) (read u : List Char) :
    lowercaseAfter (read ++ before) (u ++ text) =
      lowercaseAfter read u ++ lowercaseAfter (u.reverse ++ read ++ before) text := by
  induction u generalizing read with
  | nil => rfl
  | cons c u ih =>
    have hrest := ih (c :: read)
    rw [List.cons_append] at hrest
    rw [List.cons_append, lowercaseAfter, lowercaseAfter, casedAhead_append hbefore,
      casedAhead_append htext, hrest]
    simp

/-- Behind a blank a text is made lowercase as if it stood alone. -/
theorem lowercaseAfter_of_cut {before : List Char} (h : Cut before) (text : List Char) :
    lowercaseAfter before text = lowercase text := by
  have hall := lowercaseAfter_append_cut h cut_nil [] text
  rwa [List.append_nil, lowercaseAfter, List.append_nil] at hall

/-- Lowercasing goes on afresh behind a blank, which stays. -/
theorem lowercase_append_blank (u : List Char) {c : Char} (hc : isBlank c = true)
    (rest : List Char) : lowercase (u ++ c :: rest) = lowercase u ++ c :: lowercase rest := by
  have hnotSigma : ¬ (c == 'Σ') = true := by
    rw [beq_iff_eq]
    rintro rfl
    rw [(blankSweeps).capitals.2] at hc
    exact Bool.false_ne_true hc
  have hsplit := lowercaseAfter_append_cut cut_nil (cut_cons hc rest) [] u
  rw [List.append_nil, List.append_nil, List.append_nil] at hsplit
  rw [lowercase, hsplit, lowercaseAfter, if_neg hnotSigma, lowercaseAlone_of_isBlank hc,
    lowercaseAfter_of_cut (cut_cons hc _)]
  rfl

/-! ## Word by word -/

/-- What is written in lowercase for a character that is no blank. -/
theorem exists_lowercaseAfter_cons (before : List Char) {c : Char} (hc : isBlank c = false)
    (rest : List Char) :
    ∃ small, lowercaseAfter before (c :: rest) = small ++ lowercaseAfter (c :: before) rest ∧
      small ≠ [] ∧ ∀ d ∈ small, isBlank d = false := by
  rw [lowercaseAfter]
  split
  · split
    · exact ⟨['ς'], rfl, by decide, by decide⟩
    · exact ⟨['σ'], rfl, by decide, by decide⟩
  · exact ⟨lowercaseAlone c, rfl, solid_lowercaseAlone hc⟩

/-- What is written in lowercase for the end of a text is that end, read behind the rest. -/
theorem exists_lowercaseAfter_append (before u v : List Char) :
    ∃ front, lowercaseAfter before (u ++ v) = front ++ lowercaseAfter (u.reverse ++ before) v := by
  induction u generalizing before with
  | nil => exact ⟨[], rfl⟩
  | cons c u ih =>
    obtain ⟨front, hfront⟩ := ih (c :: before)
    rw [List.cons_append, lowercaseAfter, hfront, ← List.append_assoc, List.reverse_cons,
      List.append_assoc u.reverse]
    exact ⟨_, rfl⟩

theorem lowercase_ne_nil {c : Char} (hc : isBlank c = false) (rest : List Char) :
    lowercase (c :: rest) ≠ [] := by
  obtain ⟨small, hsplit, hsome, -⟩ := exists_lowercaseAfter_cons [] hc rest
  rw [lowercase, hsplit]
  exact List.append_ne_nil_of_left_ne_nil hsome _

/-- A word in lowercase is a word. -/
theorem solid_lowercase {w : List Char} (hne : w ≠ []) (hw : ∀ c ∈ w, isBlank c = false) :
    lowercase w ≠ [] ∧ ∀ c ∈ lowercase w, isBlank c = false := by
  have hsolid (w before : List Char) (hw : ∀ c ∈ w, isBlank c = false) :
      ∀ c ∈ lowercaseAfter before w, isBlank c = false := by
    induction w generalizing before with
    | nil =>
      intro c hc
      cases hc
    | cons c w ih =>
      obtain ⟨hc, hrest⟩ := List.forall_mem_cons.mp hw
      obtain ⟨small, hsplit, -, hsmall⟩ := exists_lowercaseAfter_cons before hc w
      rw [hsplit]
      exact List.forall_mem_append.mpr ⟨hsmall, ih _ hrest⟩
  refine ⟨?_, hsolid w [] hw⟩
  obtain ⟨c, w, rfl⟩ := List.exists_cons_of_ne_nil hne
  exact lowercase_ne_nil (hw c List.mem_cons_self) w

/-- A text in lowercase has the words of the text in lowercase. -/
theorem words_lowercase (text : List Char) : words (lowercase text) = (words text).map lowercase := by
  have hone {w : List Char} (hw : ∀ c ∈ w, isBlank c = false) :
      words (lowercase w) = (words w).map lowercase := by
    by_cases hne : w = []
    · rw [hne]
      rfl
    · obtain ⟨hsome, hsolid⟩ := solid_lowercase hne hw
      rw [words_of_solid hne hw, words_of_solid hsome hsolid]
      rfl
  induction text using blank_induction with
  | solid w hw => exact hone hw
  | blank w c rest hw hc ih =>
    rw [lowercase_append_blank w hc, words_append_blank _ hc, words_append_blank _ hc, hone hw, ih,
      List.map_append]

/-- Words joined by spaces are made lowercase one by one. -/
theorem lowercase_join (parts : List (List Char)) :
    lowercase (join [' '] parts) = join [' '] (parts.map lowercase) := by
  induction parts with
  | nil => rfl
  | cons p parts ih =>
    cases parts with
    | nil => rfl
    | cons q parts =>
      show lowercase (p ++ [' '] ++ join [' '] (q :: parts)) = _
      rw [List.append_assoc, List.singleton_append, lowercase_append_blank p (by decide), ih]
      simp [join]

/-- A text may be made lowercase before its gaps are collapsed or behind it. -/
theorem lowercase_collapse (text : List Char) :
    lowercase (collapse text) = collapse (lowercase text) := by
  rw [collapse, collapse, lowercase_join, words_lowercase]

end CalcSpeech.Unicode
