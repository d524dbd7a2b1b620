import CalcSpeech.Proofs.Expression.Rooted

/-!
# What cleaning conserves

Cleaning drops and replaces characters in one pass after the other, each of which works on what the
one before has left. The digits and the operators come through all of them in their order, with plus
signs between the same of them (`canonicalize_conserves`). The roots come through as well, but the
character that stands for a root while the letters go becomes one even where it was read
(`rootCount_canonicalize`).
-/

namespace CalcSpeech.Expression

open Unicode Text Pattern

/-! ## One pass after the other -/

/-- The passes that drop what is no part of an expression, on a text whose roots are hidden. -/
def stripped (text : List Char) : List Char :=
  (dropFullStops ((text.filter (!quotes.contains ·)).map fun c =>
    if punctuation.contains c then ' ' else c)).map blankFiller

theorem canonicalize_eq_stripped (text : List Char) :
    canonicalize text = collapse (mergePlus (showRoots (stripped (hideRoots text)))) := rfl

/-- Characters of a kind that is never dropped, whatever stands beside them. -/
structure Lasts (f : Char → Bool) : Prop where
  kept : ∀ c, f c = true → isKept c = true
  point : f '.' = false
  blank : ∀ c, isBlank c = true → f c = false

section Passes

variable {f : Char → Bool}

theorem filter_dropFullStops (hpoint : f '.' = false) (text : List Char) :
    (dropFullStops text).filter f = text.filter f := by
  induction text with
  | nil => rfl
  | cons c rest ih =>
    rw [dropFullStops]
    split
    · rename_i hstop
      rw [ih, List.filter_cons_of_neg (by rw [hstop.1, hpoint]; exact Bool.false_ne_true)]
    · rw [List.filter_cons, List.filter_cons, ih]

theorem filter_stripped (hf : Lasts f) (text : List Char) :
    (stripped text).filter f = text.filter f := by
  have hspace : f ' ' = false := hf.blank ' ' (by decide)
  have hkept {c : Char} (hc : f c = true) := isKept_iff.mp (hf.kept c hc)
  have hquotes : (text.filter (!quotes.contains ·)).filter f = text.filter f := by
    rw [List.filter_filter]
    apply List.filter_congr
    intro c _
    cases hc : f c with
    | false => rfl
    | true => rw [(hkept hc).2.1]; rfl
  rw [stripped, filter_map_eq ?_ ?_, filter_dropFullStops hf.point, filter_map_eq ?_ ?_, hquotes]
  · intro c hc
    rw [(hkept hc).2.2, if_neg Bool.false_ne_true]
  · intro c hc
    split
    · exact hspace
    · exact hc
  · intro c hc
    rw [blankFiller, (hkept hc).1, if_neg Bool.false_ne_true]
  · intro c hc
    rw [blankFiller]
    split
    · exact hspace
    · exact hc

/-- Merging plus signs drops plus signs and blanks only. -/
theorem filter_mergePlus (hblank : ∀ c, isBlank c = true → f c = false) (hplus : f '+' = false)
    (text : List Char) : (mergePlus text).filter f = text.filter f := by
  induction text with
  | nil => rfl
  | cons c rest ih =>
    show (consPlus c (mergePlus rest)).filter f = _
    rw [consPlus]
    split
    · rename_i hmerge
      rw [filter_dropWhile_isBlank hblank, ih, List.filter_cons_of_neg]
      rw [hmerge.1, hplus]
      exact Bool.false_ne_true
    · rw [List.filter_cons, List.filter_cons, ih]

theorem filter_hideRoots (hword : ∀ c ∈ rootWord, f c = false) (hsign : f rootSign = false)
    (text : List Char) : (hideRoots text).filter f = text.filter f := by
  apply filter_rewriteAfter
  intro b m a hread
  rw [(reads_rootPattern.mp hread).1, List.filter_cons_of_neg (by simp [hsign]), List.filter_nil,
    eq_comm, List.filter_eq_nil_iff]
  intro c hc
  rw [hword c hc]
  exact Bool.false_ne_true

theorem filter_showRoots (hword : ∀ c ∈ rootWord, f c = false) (hsign : f rootSign = false)
    (text : List Char) : (showRoots text).filter f = text.filter f := by
  apply filter_flatMap_eq
  intro c
  split
  · rename_i hc
    rw [hc, List.filter_cons_of_neg (by simp [hsign]), List.filter_nil, List.filter_eq_nil_iff]
    intro d hd
    rw [hword d hd]
    exact Bool.false_ne_true
  · rfl

end Passes

/-! ## Digits and operators -/

/-- Whether a character is a digit, or an operator of which every occurrence counts. -/
def isSymbol (c : Char) : Bool :=
  isDecimalDigit c || ['-', '*', '/', '%', '^', '(', ')'].contains c

/-- Whether there is a plus sign in each of the stretches into which the symbols divide a text: in
front of the first, between two neighbours, and behind the last. -/
def plusSigns (text : List Char) : List Bool :=
  (text.splitOnP isSymbol).map (·.contains '+')

/-- Whether a character is a symbol or a plus sign. -/
def isSign (c : Char) : Bool := isSymbol c || c == '+'

theorem isSymbol_plus : isSymbol '+' = false := by decide

/-- Digits and operators are no filler. -/
theorem lasts_isSign : Lasts isSign := by
  have hplain : ∀ c ∈ ['-', '*', '/', '%', '^', '(', ')', '+'],
      isKept c = true ∧ isBlank c = false := by decide +kernel
  have hdropped : ∀ c ∈ quotes ++ punctuation ++ [','], isDecimalDigit c = false := by
    decide +kernel
  have hcases {c : Char} (h : isSign c = true) :
      isDecimalDigit c = true ∨ isKept c = true ∧ isBlank c = false := by
    simp only [isSign, isSymbol, Bool.or_eq_true, List.contains_iff_mem, beq_iff_eq] at h
    rcases h with (hdigit | hsign) | rfl
    · exact Or.inl hdigit
    · exact Or.inr (hplain c (List.mem_append_left ['+'] hsign))
    · exact Or.inr (hplain '+' (by simp))
  refine ⟨fun c h => ?_, by decide, fun c h => ?_⟩
  · rcases hcases h with hdigit | hsign
    · have hnot {d : Char} (hd : d ∈ quotes ++ punctuation ++ [',']) : c ≠ d := by
        rintro rfl
        rw [hdropped c hd] at hdigit
        exact Bool.false_ne_true hdigit
      rw [isKept_iff, isFiller, isLetter_of_isDecimalDigit hdigit, isMark_of_isDecimalDigit hdigit,
        ← Bool.not_eq_true, ← Bool.not_eq_true, ← Bool.not_eq_true]
      simp only [Bool.false_or, beq_iff_eq, List.contains_iff_mem]
      exact ⟨hnot (by simp), fun hq => hnot (by simp [hq]) rfl, fun hp => hnot (by simp [hp]) rfl⟩
    · exact hsign.1
  · rw [Bool.eq_false_iff]
    intro hsign
    rcases hcases hsign with hdigit | hplain
    · rw [isBlank_of_isDecimalDigit hdigit] at h
      exact Bool.false_ne_true h
    · rw [hplain.2] at h
      exact Bool.false_ne_true h

theorem plusSigns_of_symbol {c : Char} (hc : isSymbol c = true) (text : List Char) :
    plusSigns (c :: text) = false :: plusSigns text := by
  rw [plusSigns, List.splitOnP_cons_eq_if_modifyHead, if_pos hc]
  rfl

theorem plusSigns_of_other {c : Char} (hc : isSymbol c = false) (text : List Char) :
    plusSigns (c :: text) = (plusSigns text).modifyHead ('+' == c || ·) := by
  rw [plusSigns, plusSigns, List.splitOnP_cons_eq_if_modifyHead, if_neg (by simp [hc])]
  cases text.splitOnP isSymbol with
  | nil => rfl
  | cons stretch others =>
    rw [List.modifyHead_cons, List.map_cons, List.contains_cons]
    rfl

/-- What is neither a symbol nor a plus sign does not count. -/
theorem plusSigns_filter (text : List Char) : plusSigns (text.filter isSign) = plusSigns text := by
  induction text with
  | nil => rfl
  | cons c rest ih =>
    cases hsymbol : isSymbol c with
    | true =>
      rw [List.filter_cons_of_pos (by simp [isSign, hsymbol]), plusSigns_of_symbol hsymbol,
        plusSigns_of_symbol hsymbol, ih]
    | false =>
      by_cases hplus : c = '+'
      · rw [List.filter_cons_of_pos (by simp [isSign, hplus]), plusSigns_of_other hsymbol,
          plusSigns_of_other hsymbol, ih]
      · rw [List.filter_cons_of_neg (by simp [isSign, hsymbol, hplus]), ih,
          plusSigns_of_other hsymbol]
        have hne : ('+' == c) = false := beq_eq_false_iff_ne.mpr (Ne.symm hplus)
        cases plusSigns rest <;> simp [hne]

theorem plusSigns_congr {u v : List Char} (h : u.filter isSign = v.filter isSign) :
    plusSigns u = plusSigns v := by
  rw [← plusSigns_filter u, h, plusSigns_filter v]

/-- One plus sign in a stretch is as good as two. -/
theorem plusSigns_mergePlus (text : List Char) : plusSigns (mergePlus text) = plusSigns text := by
  have hcons (c : Char) {u v : List Char} (h : plusSigns u = plusSigns v) :
      plusSigns (c :: u) = plusSigns (c :: v) := by
    cases hc : isSymbol c with
    | true => rw [plusSigns_of_symbol hc, plusSigns_of_symbol hc, h]
    | false => rw [plusSigns_of_other hc, plusSigns_of_other hc, h]
  induction text with
  | nil => rfl
  | cons c rest ih =>
    show plusSigns (consPlus c (mergePlus rest)) = _
    rw [← hcons c ih, consPlus]
    split
    · rename_i hmerge
      obtain ⟨rfl, hhead⟩ := hmerge
      obtain ⟨r, hr⟩ := List.head?_eq_some_iff.mp hhead
      have hsame : plusSigns (mergePlus rest) = plusSigns ('+' :: r) := by
        rw [← hr]
        exact plusSigns_congr (filter_dropWhile_isBlank lasts_isSign.blank _).symm
      rw [hr, plusSigns_of_other isSymbol_plus (mergePlus rest), hsame,
        plusSigns_of_other isSymbol_plus]
      cases plusSigns r <;> simp
    · rfl

/-- Cleaning loses, adds and moves no digit and no operator, and between two of them that are
neighbours there is a plus sign if there was one. -/
theorem canonicalize_conserves (text : List Char) :
    (canonicalize text).filter isSymbol = text.filter isSymbol ∧
      plusSigns (canonicalize text) = plusSigns text := by
  have hword : ∀ c ∈ rootWord, isSign c = false := by decide
  have hsign : isSign rootSign = false := by decide +kernel
  have hshown : (showRoots (stripped (hideRoots text))).filter isSign = text.filter isSign := by
    rw [filter_showRoots hword hsign, filter_stripped lasts_isSign, filter_hideRoots hword hsign]
  have hsymbol (c : Char) (hc : isSymbol c = true) : isSign c = true := by
    rw [isSign, hc, Bool.true_or]
  have hblank (c : Char) (hc : isBlank c = true) : isSymbol c = false := by
    have hnone := lasts_isSign.blank c hc
    rw [isSign, Bool.or_eq_false_iff] at hnone
    exact hnone.1
  rw [canonicalize_eq_stripped]
  constructor
  · rw [filter_collapse_of_solid hblank, filter_mergePlus hblank isSymbol_plus]
    exact filter_of_filter hsymbol hshown
  · rw [plusSigns_congr (filter_collapse_of_solid lasts_isSign.blank _), plusSigns_mergePlus]
    exact plusSigns_congr hshown

/-! ## Roots -/

/-- How many times `sqrt` is found in a text that is searched from left to right. -/
def rootCount (text : List Char) : Nat := (rootPattern.matchesIn text).length

/-- Each root becomes one sign, and the signs that a text has already stay. -/
theorem count_hideRoots (text : List Char) :
    (hideRoots text).count rootSign = rootCount text + text.count rootSign := by
  have hrewrite (b : Option Char) (text : List Char) :
      (rootPattern.rewriteAfter (fun _ => [rootSign]) b text).count rootSign =
        (rootPattern.matchesAfter b text).length + text.count rootSign := by
    induction b, text using rootPattern.search_induction with
    | nil => rfl
    | plain b c rest hc ih =>
      rw [rewriteAfter_plain _ hc, matchesAfter_plain hc, List.count_cons, List.count_cons, ih,
        Nat.add_assoc]
    | found b m a hm hne ih =>
      obtain ⟨-, a', ha, hread⟩ := reads_of_matchAt? hm
      have hnone : m.text.count rootSign = 0 := by
        rw [(reads_rootPattern.mp hread).1]
        decide
      rw [rewriteAfter_found _ hm, matchesAfter_found hm, List.count_append, List.count_append, ih,
        hnone, List.length_cons, List.count_singleton_self]
      omega
  exact hrewrite none text

/-- A sign is shown as one root, so with one `s`. -/
theorem count_showRoots {text : List Char} (h : 's' ∉ text) :
    (showRoots text).count 's' = text.count rootSign := by
  induction text with
  | nil => rfl
  | cons c rest ih =>
    have hc : 's' ≠ c := List.ne_of_not_mem_cons h
    have hrest : 's' ∉ rest := List.not_mem_of_not_mem_cons h
    have hcons : showRoots (c :: rest) =
        (if c = rootSign then rootWord else [c]) ++ showRoots rest := rfl
    rw [hcons, List.count_append, ih hrest]
    split
    · rename_i hsign
      rw [hsign, List.count_cons_self, Nat.add_comm, show rootWord.count 's' = 1 by decide]
    · rename_i hsign
      rw [List.count_cons_of_ne hc.symm, List.count_nil, Nat.zero_add,
        List.count_cons_of_ne hsign]

/-- In a rooted text an `s` is the first letter of a root. -/
theorem rootCount_of_rooted {text : List Char} (h : Rooted text) :
    rootCount text = text.count 's' := by
  have hmatches (b : Option Char) : (rootPattern.matchesAfter b text).length = text.count 's' := by
    induction h generalizing b with
    | nil => rfl
    | @root rest _ ih =>
      have hfound := matchesAfter_found (m := ⟨rootWord, []⟩) (matchAt?_rootPattern b rest)
      rw [hfound, List.length_cons, ih, List.count_append, Nat.add_comm,
        show rootWord.count 's' = 1 by decide]
    | @kept c rest hc _ ih =>
      have hne : c ≠ 's' := by
        rintro rfl
        exact absurd hc (by decide)
      have hplain : rootPattern.matchAt? b (c :: rest) = none :=
        opens_rootPattern.matchAt?_eq_none (by simpa using hne)
      rw [matchesAfter_plain hplain, ih, List.count_cons_of_ne hne]
  exact hmatches none

theorem count_congr {u v : List Char} {c : Char} (h : u.filter (· == c) = v.filter (· == c)) :
    u.count c = v.count c := by
  rw [List.count_eq_length_filter, h, List.count_eq_length_filter]

/-- The roots of a text are found again when it is cleaned, and the characters that are the sign
for a root already are taken for roots. -/
theorem rootCount_canonicalize (text : List Char) :
    rootCount (canonicalize text) = rootCount text + text.count rootSign := by
  have hlasts : Lasts (· == rootSign) := by
    refine ⟨fun c hc => ?_, by decide, fun c hc => ?_⟩
    · rw [beq_iff_eq.mp hc]
      decide +kernel
    · rw [beq_eq_false_iff_ne]
      rintro rfl
      exact absurd hc (by decide)
  have hblank (c : Char) (hc : isBlank c = true) : (c == 's') = false := by
    rw [beq_eq_false_iff_ne]
    rintro rfl
    exact absurd hc (by decide)
  have hletter : 's' ∉ stripped (hideRoots text) :=
    fun hs => absurd (isKept_of_mem hs) (by decide)
  calc rootCount (canonicalize text)
      = (collapse (mergePlus (showRoots (stripped (hideRoots text))))).count 's' :=
        rootCount_of_rooted (rooted_canonicalize text)
    _ = (showRoots (stripped (hideRoots text))).count 's' :=
        (count_congr (filter_collapse_of_solid hblank _)).trans
          (count_congr (filter_mergePlus hblank (by decide) _))
    _ = (stripped (hideRoots text)).count rootSign := count_showRoots hletter
    _ = (hideRoots text).count rootSign := count_congr (filter_stripped hlasts _)
    _ = rootCount text + text.count rootSign := count_hideRoots text

/-- The roots are as many as before exactly in a text without the sign for a root. -/
theorem rootCount_canonicalize_iff {text : List Char} :
    rootCount (canonicalize text) = rootCount text ↔ rootSign ∉ text := by
  rw [rootCount_canonicalize, ← List.count_eq_zero]
  omega

/-- The sign for a root is read as a root that nobody has said. -/
example : canonicalize "2 \uE000 9".toList = "2 sqrt 9".toList := by decide +kernel

end CalcSpeech.Expression
