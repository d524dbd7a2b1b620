import CalcSpeech.Proofs.Decimal
import CalcSpeech.Proofs.Operator.Signs
import CalcSpeech.Proofs.Point.Marks
import CalcSpeech.Proofs.Written.Reading

/-!
# Numerals with the marks of their language

Every language writes a number with its own mark between groups of three digits and its own mark in
front of the decimals. Whichever these are, and whether the digits are grouped or not, the plain
digits of the number are read back, with a period in front of the decimals (`normalize_localized`).
-/

namespace CalcSpeech

open Unicode Pattern NumeralMark

/-- Digits with a mark between groups of three, counted from the last digit. -/
def grouped (mark : Char) : List Char → List Char
  | [] => []
  | d :: ds => if ds ≠ [] ∧ 3 ∣ ds.length then d :: mark :: grouped mark ds else d :: grouped mark ds

example : grouped ',' "1234567".toList = "1,234,567".toList := by decide

namespace NumeralMark

/-! ## Where the groups are -/

section Groups

variable {m : Char}

/-- A text without the mark loses nothing with it. -/
theorem filter_mark {u : List Char} (hu : m ∉ u) : u.filter (· != m) = u := by
  rw [List.filter_eq_self]
  intro c hc
  rw [bne_iff_ne]
  rintro rfl
  exact hu hc

/-- The mark between groups is not a digit. -/
theorem mark_notMem (hm : isDecimalDigit m = false) {u : List Char}
    (hu : ∀ c ∈ u, isDecimalDigit c = true) : m ∉ u := fun h =>
  Bool.false_ne_true (hm.symm.trans (hu m h))

theorem mem_grouped {ds : List Char} : ∀ c ∈ grouped m ds, c ∈ ds ∨ c = m := by
  induction ds with
  | nil => simp [grouped]
  | cons d ds ih =>
    intro c hc
    rw [grouped] at hc
    split at hc
    · rcases List.mem_cons.mp hc with rfl | hc
      · exact Or.inl List.mem_cons_self
      · rcases List.mem_cons.mp hc with rfl | hc
        · exact Or.inr rfl
        · exact (ih c hc).imp_left (List.mem_cons_of_mem d)
    · rcases List.mem_cons.mp hc with rfl | hc
      · exact Or.inl List.mem_cons_self
      · exact (ih c hc).imp_left (List.mem_cons_of_mem d)

/-- Grouped digits are one to three digits and groups behind them. -/
theorem exists_groups (hm : isDecimalDigit m = false) {ds : List Char} (hds : IsDigits ds) :
    ∃ lead gs, grouped m ds = lead ++ gs ∧ lead ++ gs.filter (· != m) = ds ∧ Groups m gs ∧
      lead ≠ [] ∧ lead.length ≤ 3 ∧ lead.length % 3 = ds.length % 3 := by
  obtain ⟨hne, hdigits⟩ := hds
  induction ds with
  | nil => exact absurd rfl hne
  | cons d ds ih =>
    by_cases hnil : ds = []
    · subst hnil
      exact ⟨[d], [], rfl, rfl, .nil, by simp, by simp, rfl⟩
    · obtain ⟨lead, gs, htext, hplain, hgroups, hlead, hshort, hrest⟩ :=
        ih hnil fun c hc => hdigits c (List.mem_cons_of_mem d hc)
      have hpos := List.length_pos_iff.mpr hlead
      by_cases hfull : 3 ∣ ds.length
      · -- in front of full groups the digits in front of the first mark are a group themselves
        obtain ⟨x, y, z, rfl⟩ := List.length_eq_three.mp (show lead.length = 3 by omega)
        have hthree : ∀ c ∈ [x, y, z], isDecimalDigit c = true := fun c hc =>
          hdigits c (List.mem_cons_of_mem d (hplain ▸ List.mem_append_left _ hc))
        refine ⟨[d], m :: ([x, y, z] ++ gs), ?_, ?_, .cons hthree hgroups, by simp, by simp, ?_⟩
        · rw [grouped, if_pos ⟨hnil, hfull⟩, htext]
          rfl
        · rw [List.filter_cons_of_neg (by simp), List.filter_append,
            filter_mark (mark_notMem hm hthree), hplain]
          rfl
        · rw [List.length_cons, List.length_cons, List.length_nil]
          omega
      · refine ⟨d :: lead, gs, ?_, by rw [List.cons_append, hplain], hgroups, by simp, ?_, ?_⟩
        · rw [grouped, if_neg fun h => hfull h.2, htext]
          rfl
        · rw [List.length_cons]
          omega
        · rw [List.length_cons, List.length_cons]
          omega

/-- Behind groups as behind what stands in front of them there is a digit. -/
theorem Groups.digit_behind {gs : List Char} (h : Groups m gs) {b : Option Char}
    (hb : b.any isDecimalDigit = true) : (behind b gs).any isDecimalDigit = true := by
  induction h generalizing b with
  | nil => exact hb
  | @cons x y z _ hdigits _ ih => exact ih (b := some z) (hdigits z (by simp))

end Groups

/-! ## How groups are read -/

section Reading

variable {m : Char} {b : Option Char} {ds gs a : List Char}

theorem prefers_group {x y z : Char} (hdigits : ∀ c ∈ [x, y, z], isDecimalDigit c = true) :
    (inOrder [just m, times 3 digit]).Prefers b [m, x, y, z] a [] :=
  prefers_just.seq (prefers_times hdigits)

/-- Groups are read up to a text that does not begin with their mark. -/
theorem prefers_groups (hgs : Groups m gs) (hne : gs ≠ []) (ha : a.head? ≠ some m) :
    (atLeastOne (inOrder [just m, times 3 digit])).Prefers b gs a [] := by
  have hstop {b : Option Char} :
      (many (inOrder [just m, times 3 digit])).Prefers b [] a [] := by
    refine prefers_many_nil fun w a' k htext hread => ha ?_
    obtain ⟨x, y, z, rfl, -⟩ := exists_of_group hread
    rw [htext]
    rfl
  have hmany {gs : List Char} (hgs : Groups m gs) {b : Option Char} :
      (many (inOrder [just m, times 3 digit])).Prefers b gs a [] := by
    induction hgs generalizing b with
    | nil => exact hstop
    | cons hdigits _ ih => exact prefers_many_cons (by simp) (prefers_group hdigits) ih
  cases hgs with
  | nil => exact absurd rfl hne
  | cons hdigits hrest => exact (prefers_group hdigits).seq (hmany hrest)

end Reading

/-! ## Without the groups -/

section Ungrouped

variable {m : Char} {p q : Pattern} {r : List Pattern} {l a : List Char}
  (hp : p = inOrder (boundary :: upToThree digit ::
    atLeastOne (inOrder [just m, times 3 digit]) :: q :: r))
  (hlast : ∀ b : Option Char, b.any isDecimalDigit = true →
    (inOrder (q :: r)).Prefers b l a [])
  (hrest : m ∉ l ++ a)

include hp hlast hrest

/-- Grouped digits at the front of a text are read with what the pattern asks for behind them. -/
theorem prefers_grouped (hm : isDecimalDigit m = false) {lead gs : List Char} (hne : lead ≠ [])
    (hshort : lead.length ≤ 3) (hlead : ∀ c ∈ lead, isDecimalDigit c = true)
    (hgroups : Groups m gs) (hnil : gs ≠ []) : p.Prefers none (lead ++ (gs ++ l)) a [] := by
  have hstart : isWordBoundary none (lead ++ (gs ++ l) ++ a).head? = true := by
    obtain ⟨c, lead, rfl⟩ := List.exists_cons_of_ne_nil hne
    show (false != isWordCharacter c) = true
    rw [isWordCharacter_of_isDecimalDigit (hlead c List.mem_cons_self)]
    rfl
  have hmark : (gs ++ l ++ a).head?.any isDecimalDigit = false := by
    cases hgroups with
    | nil => exact absurd rfl hnil
    | cons _ _ => exact hm
  have hend : (l ++ a).head? ≠ some m := fun hhead => hrest (List.mem_of_head? hhead)
  have hbefore : (behind none lead).any isDecimalDigit = true :=
    any_behind_of_ne_nil none hne hlead
  rw [hp]
  exact (prefers_boundary hstart).seq (u := [])
    ((prefers_upToThree hne hshort hlead hmark).seq
      ((prefers_groups hgroups hnil hend).seq (hlast _ (hgroups.digit_behind hbefore))))

/-- The marks between the groups of a number at the front of a text are taken out, and without
groups the text stays as it is. -/
theorem rewrite_grouped (hm : isDecimalDigit m = false) {ds whole : List Char} (hds : IsDigits ds)
    (hwhole : whole = ds ∨ whole = grouped m ds)
    (hreplaces : ∀ b text, Replaces m Thousand [] b text (p.rewriteAfter (without m) b text)) :
    p.rewrite (without m) (whole ++ (l ++ a)) = ds ++ (l ++ a) := by
  have hplain {u : List Char} (hu : m ∉ u) (b : Option Char) :
      p.rewriteAfter (without m) b u = u :=
    (hreplaces b u).eq_self fun x y htext => absurd (by rw [htext]; simp) hu
  have hungrouped : p.rewrite (without m) (ds ++ (l ++ a)) = ds ++ (l ++ a) := by
    rw [rewrite_eq_rewriteAfter]
    refine hplain ?_ none
    rw [List.mem_append, not_or]
    exact ⟨mark_notMem hm hds.2, hrest⟩
  rcases hwhole with rfl | rfl
  · exact hungrouped
  obtain ⟨lead, gs, htext, hsplit, hgroups, hne, hshort, -⟩ := exists_groups hm hds
  by_cases hnil : gs = []
  · rw [hnil, List.filter_nil] at hsplit
    rw [htext, hnil, hsplit]
    exact hungrouped
  have hlead : ∀ c ∈ lead, isDecimalDigit c = true := fun c hc =>
    hds.2 c (hsplit ▸ List.mem_append_left _ hc)
  have hread := prefers_grouped hp hlast hrest hm hne hshort hlead hgroups hnil
  have hfound := rewriteAfter_found (m := ⟨lead ++ (gs ++ l), []⟩) (without m)
    (hread.matchAt?_eq (by simp [hne]))
  rw [List.mem_append, not_or] at hrest
  have hleft : without m ⟨lead ++ (gs ++ l), []⟩ = ds ++ l := by
    rw [without, List.filter_append, List.filter_append, filter_mark (mark_notMem hm hlead),
      filter_mark hrest.1, ← List.append_assoc, hsplit]
  rw [htext, rewrite_eq_rewriteAfter, List.append_assoc, ← List.append_assoc gs,
    ← List.append_assoc lead, hfound, hleft, hplain hrest.2, List.append_assoc]

end Ungrouped

section Languages

variable {ds whole es : List Char} (hds : IsDigits ds)

include hds

/-- Commas between groups are taken out in front of the decimals. -/
theorem rewrite_commaGrouped (hwhole : whole = ds ∨ whole = grouped ',' ds)
    (hes : ∀ c ∈ es, isDecimalDigit c = true) :
    commaGroups.rewrite (without ',') (withDecimals '.' whole es) = withDecimals '.' ds es := by
  have hends {a : List Char} (ha : a.head?.any isWordCharacter = false) (b : Option Char)
      (hb : b.any isDecimalDigit = true) : boundary.Prefers b [] a [] := by
    refine prefers_boundary ?_
    obtain ⟨d, rfl⟩ : ∃ d, b = some d := by
      cases b with
      | none => exact Bool.noConfusion hb
      | some d => exact ⟨d, rfl⟩
    rw [isWordBoundary, ha, Option.any_some, isWordCharacter_of_isDecimalDigit hb]
    rfl
  have hgrouped {a : List Char} (ha : a.head?.any isWordCharacter = false) (hcomma : ',' ∉ a) :
      commaGroups.rewrite (without ',') (whole ++ a) = ds ++ a :=
    rewrite_grouped (q := boundary) (r := []) (l := []) rfl (hends ha) hcomma
      isDecimalDigit_comma hds hwhole replaces_commaGroups
  unfold withDecimals
  split
  · have hnone := hgrouped (a := []) rfl (by simp)
    rwa [List.append_nil, List.append_nil] at hnone
  · refine hgrouped ?_ ?_
    · show isWordCharacter '.' = false
      decide
    · rw [List.mem_cons, not_or]
      exact ⟨by decide, mark_notMem isDecimalDigit_comma hes⟩

/-- Periods between groups are taken out in front of a comma with decimals. -/
theorem rewrite_periodGrouped (hwhole : whole = ds ∨ whole = grouped '.' ds)
    (hne : es ≠ []) (hes : ∀ c ∈ es, isDecimalDigit c = true) :
    periodGroups.rewrite (without '.') (whole ++ ',' :: es) = ds ++ ',' :: es := by
  obtain ⟨e, es, rfl⟩ := List.exists_cons_of_ne_nil hne
  have hnone : '.' ∉ [',', e] ++ es := by
    have := mark_notMem (m := '.') (by decide) hes
    simpa using this
  exact rewrite_grouped (q := just ',') (r := [digit]) (l := [',', e]) rfl
    (fun _ _ => prefers_just.seq (prefers_char (hes e List.mem_cons_self))) hnone (by decide) hds
    hwhole replaces_periodGroups

variable {pack : LanguagePack}
  (hwhole : whole = ds ∨ whole = grouped pack.decimalMark.grouping ds)
  (hes : ∀ c ∈ es, isDecimalDigit c = true)

include hwhole hes

/-- What holds neither of digits nor of the two marks holds of nothing in a written number. -/
theorem eq_false_of_localized {f : Char → Bool} (hdigit : ∀ c, isDecimalDigit c = true → f c = false)
    (hperiod : f '.' = false) (hcomma : f ',' = false) :
    ∀ c ∈ withDecimals pack.decimalMark.point whole es, f c = false := by
  have hmarks : f pack.decimalMark.point = false ∧ f pack.decimalMark.grouping = false := by
    cases pack.decimalMark
    · exact ⟨hperiod, hcomma⟩
    · exact ⟨hcomma, hperiod⟩
  have hfront : ∀ c ∈ whole, f c = false := by
    intro c hc
    rcases hwhole with rfl | rfl
    · exact hdigit c (hds.2 c hc)
    · rcases mem_grouped c hc with hc | rfl
      · exact hdigit c (hds.2 c hc)
      · exact hmarks.2
  intro c hc
  unfold withDecimals at hc
  split at hc
  · exact hfront c hc
  · rcases List.mem_append.mp hc with hc | hc
    · exact hfront c hc
    · rcases List.mem_cons.mp hc with rfl | hc
      · exact hmarks.1
      · exact hdigit c (hes c hc)

theorem silent_localized : Silent (withDecimals pack.decimalMark.point whole es) :=
  eq_false_of_localized hds hwhole hes (fun _ => isVerbal_of_isDecimalDigit) (by decide) (by decide)

theorem solid_localized : ∀ c ∈ withDecimals pack.decimalMark.point whole es, isBlank c = false :=
  eq_false_of_localized hds hwhole hes (fun _ => isBlank_of_isDecimalDigit) (by decide) (by decide)

omit hwhole in
theorem isNumeral_withDecimals : IsNumeral (withDecimals '.' ds es) := by
  unfold withDecimals
  split
  · exact .whole hds
  · exact .decimal hds ⟨‹_›, hes⟩

/-- The marks of a language between groups and in front of decimals are read. -/
theorem rewrite_localized (hpack : pack.IsOrdinary) (hcomma : pack.decimalMark = .comma → es ≠ []) :
    NumeralMark.rewrite pack.decimalMark (spokenPoint? pack)
      (withDecimals pack.decimalMark.point whole es) = withDecimals '.' ds es := by
  have hsilent := silent_localized hds hwhole hes
  have hsolid := solid_localized hds hwhole hes
  have hplain : (withDecimals pack.decimalMark.point whole es).map plainSpace =
      withDecimals pack.decimalMark.point whole es :=
    plainSpaces_eq_self fun c hc => plainSpace_of_solid (hsolid c hc)
  have hnumeral := isNumeral_withDecimals hds hes
  have hfree : ∀ c ∈ withDecimals '.' ds es, (c == ',') = false :=
    hnumeral.forall_eq_false (by decide) (beq_eq_false_of_digit isDecimalDigit_comma)
  -- with the period as decimal point nothing is left to do for a lone comma
  have hlast := rewriteAfter_of_needs needs_comma.2.2 pointed none hfree
  unfold NumeralMark.rewrite
  rw [hplain]
  cases hmark : pack.decimalMark with
  | period =>
    rw [hmark] at hwhole hsilent hsolid
    have hspoken : rewriteSpoken .period (spokenPoint? pack) (withDecimals '.' whole es) =
        withDecimals '.' whole es := rewriteSpoken_of_period hpack hmark hsilent
    have hspaced : spacedPoint.rewrite pointed (withDecimals '.' whole es) =
        withDecimals '.' whole es := spacedPoint_of_solid hsolid
    simp only [DecimalMark.point, hspoken, hspaced]
    rw [rewrite_commaGrouped hds hwhole hes]
    exact hlast
  | comma =>
    have hne := hcomma hmark
    rw [hmark] at hwhole
    obtain ⟨points, hp, -⟩ := exists_spokenPoint hpack hmark
    have hbetween : Between ds es := by
      constructor
      · exact any_behind_of_ne_nil none hds.1 hds.2
      · obtain ⟨e, es, rfl⟩ := List.exists_cons_of_ne_nil hne
        exact hes e List.mem_cons_self
    have hmarked : Silent (ds ++ ',' :: es) := by
      intro c hc
      rcases List.mem_append.mp hc with hc | hc
      · exact isVerbal_of_isDecimalDigit (hds.2 c hc)
      · rcases List.mem_cons.mp hc with rfl | hc
        · decide
        · exact isVerbal_of_isDecimalDigit (hes c hc)
    have hspoken : rewriteSpoken .comma (spokenPoint? pack) (withDecimals ',' whole es) =
        withDecimals '.' ds es := by
      rw [withDecimals, withDecimals, if_neg hne, if_neg hne, hp]
      show Pattern.rewrite _ pointed (periodGroups.rewrite (without '.') _) = _
      rw [rewrite_periodGrouped hds hwhole hne hes]
      exact spokenPoint_eq_pointed hpack hmark hp hmarked
        (mark_notMem isDecimalDigit_comma hds.2) (mark_notMem isDecimalDigit_comma hes) hbetween
    simp only [DecimalMark.point, hspoken, spacedPoint_of_solid hnumeral.solid]
    rw [rewrite_eq_rewriteAfter commaGroups, rewriteAfter_of_needs needs_comma.2.1 _ none hfree]
    exact hlast

end Languages

end NumeralMark

/-! ## Through all stages -/

section Stages

variable {pack : LanguagePack} (hpack : pack.IsOrdinary) (hapart : pack.operatorSpelling.IsApart)
  {lexicon : Lexicon} (hof : lexicon.IsOf pack)

include hpack hapart hof

/-- A silent text whose marks are read as those of a numeral comes to the numeral. -/
theorem rewriteAll_marks {text n : List Char} (htext : Silent text) (hn : IsNumeral n)
    (hread : NumeralMark.rewrite pack.decimalMark (spokenPoint? pack) text = n) :
    Stage.rewriteAll Stage.all lexicon text = n := by
  have hsilent : Silent n :=
    hn.forall_eq_false (by decide) fun _ => isVerbal_of_isDecimalDigit
  have hkept : NumeralMark.rewrite pack.decimalMark lexicon.decimalPoint n = n := by
    rw [numeralMarks_of_silent hpack hof hsilent, spacedPoint_of_solid hn.solid]
    · intro c hc
      rcases hn.mem hc with hdigit | rfl
      · rintro rfl
        exact absurd hdigit (by decide)
      · decide
    · exact fun c hc => plainSpace_of_solid (hn.solid c hc)
  -- the numeral itself passes the stages of which only the last ones are left
  have hall := rewriteAll_numeral hn hpack hapart hof
  simp only [Stage.rewriteAll, Stage.all, List.foldl_cons, List.foldl_nil, Stage.rewrite] at hall ⊢
  rw [fractions_of_silent hpack hof hsilent, hof.pack_eq, hkept] at hall
  rw [numberWords_of_silent hpack hof htext, hof.scaledSum, scaleNumbers_of_silent _ _ htext,
    fractions_of_silent hpack hof htext, hof.pack_eq, hof.decimalPoint, hread]
  exact hall

end Stages

/-- A number with the marks of its language, grouped or not, comes to its plain digits, with a period
in front of the decimals, in every built-in language. -/
theorem normalize_localized {pack : LanguagePack} (hpack : pack ∈ builtinPacks) (n : Nat)
    {whole decimals : List Char} (hwhole : whole = Nat.toDigits 10 n ∨
      whole = grouped pack.decimalMark.grouping (Nat.toDigits 10 n))
    (hdecimals : ∀ c ∈ decimals, isDecimalDigit c = true)
    (hcomma : pack.decimalMark = .comma → decimals ≠ [])
    (hlength : (withDecimals pack.decimalMark.point whole decimals).length ≤ 1000) :
    (Lexicon.ofPack pack).map
        (·.normalize (withDecimals pack.decimalMark.point whole decimals)) =
      .ok (withDecimals '.' (Nat.toDigits 10 n) decimals) := by
  have hordinary := isOrdinary_of_mem hpack
  have hdigits := (isPlainDigits_toDigits n).isDigits
  obtain ⟨lexicon, hlexicon⟩ := Lexicon.exists_ofPack hordinary
  have hprepare : Transcript.prepare (withDecimals pack.decimalMark.point whole decimals) =
      withDecimals pack.decimalMark.point whole decimals := by
    apply Transcript.prepare_of_plainSpoken
    have hspoken := eq_false_of_localized hdigits hwhole hdecimals
      (f := fun c => !(Transcript.isPlainSpoken c || c == ','))
      (fun c hc => by rw [Transcript.isPlainSpoken_iff.mpr (Or.inl hc)]; rfl) (by decide) (by decide)
    intro c hc
    rw [← beq_iff_eq (a := c) (b := ','), ← Bool.or_eq_true, ← Bool.not_eq_false']
    exact hspoken c hc
  rw [hlexicon]
  show Except.ok (lexicon.normalize _) = _
  refine congrArg Except.ok ?_
  rw [lexicon.normalize_of_short hlength, hprepare]
  exact rewriteAll_marks hordinary (operatorsApart_of_mem hpack) (Lexicon.isOf_of_ofPack hlexicon)
    (silent_localized hdigits hwhole hdecimals) (isNumeral_withDecimals hdigits hdecimals)
    (rewrite_localized hdigits hwhole hdecimals hordinary hcomma)

/-- `1.234.567,891` in German -/
theorem normalize_localized_german :
    german ∈ builtinPacks ∧ (∀ c ∈ "891".toList, isDecimalDigit c = true) ∧
      "1.234.567,891".length ≤ 1000 ∧
      (Lexicon.ofPack german).map (·.normalize "1.234.567,891".toList) =
        .ok "1234567.891".toList := by
  have hpack : german ∈ builtinPacks := by simp [builtinPacks]
  have hdigits : Nat.toDigits 10 1234567 = "1234567".toList := by decide
  have hdecimals : ∀ c ∈ "891".toList, isDecimalDigit c = true := by decide
  have hwritten : withDecimals german.decimalMark.point
      (grouped german.decimalMark.grouping (Nat.toDigits 10 1234567)) "891".toList =
      "1.234.567,891".toList := by
    rw [hdigits]
    decide
  have h := normalize_localized hpack 1234567 (Or.inr rfl) hdecimals (fun _ => by decide)
    (by rw [hwritten]; decide)
  rw [hwritten, hdigits] at h
  exact ⟨hpack, hdecimals, by decide, h⟩

end CalcSpeech
