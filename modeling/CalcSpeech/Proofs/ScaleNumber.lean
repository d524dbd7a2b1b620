import CalcSpeech.Proofs.Decimal
import CalcSpeech.Proofs.Formula
import CalcSpeech.Proofs.Pattern.Digits
import CalcSpeech.Proofs.Vocabulary.Found
import Mathlib.Algebra.Group.Nat.Defs

/-!
# Scaled numbers

A numeral with marks between its digits, a gap and a scale word are read as one scaled number
(`prefers_scaled`), and with a number behind it and what that may belong to as one sum
(`prefers_sumRow`). At the end of a text the number is added (`rewrite_added`) unless the sum is too
large (`rewrite_tooLarge`).
-/

namespace CalcSpeech

open Unicode Pattern Vocabulary Text

theorem IsPlainDigits.head {ds : List Char} (h : IsPlainDigits ds) :
    ds.head?.any Char.isDigit = true := by
  obtain ⟨d, ds, rfl⟩ := List.exists_cons_of_ne_nil h.1
  exact h.2 d List.mem_cons_self

/-- Digits with periods and commas between them. -/
inductive IsMarked : List Char → Prop
  | digits {ds} : IsPlainDigits ds → IsMarked ds
  | mark {ds m rest} : IsPlainDigits ds → m = '.' ∨ m = ',' → IsMarked rest →
      IsMarked (ds ++ m :: rest)

theorem IsMarked.exists_cons {n : List Char} (h : IsMarked n) :
    ∃ d ds, n = d :: ds ∧ d.isDigit = true := by
  cases h with
  | digits hds =>
    obtain ⟨d, ds, rfl⟩ := List.exists_cons_of_ne_nil hds.1
    exact ⟨d, ds, rfl, hds.2 d List.mem_cons_self⟩
  | @mark ds m rest hds _ _ =>
    obtain ⟨d, ds, rfl⟩ := List.exists_cons_of_ne_nil hds.1
    exact ⟨d, ds ++ m :: rest, rfl, hds.2 d List.mem_cons_self⟩

theorem IsMarked.mem {n : List Char} (h : IsMarked n) {c : Char} (hc : c ∈ n) :
    c.isDigit = true ∨ c = '.' ∨ c = ',' := by
  induction h with
  | digits hds => exact Or.inl (hds.2 c hc)
  | mark hds hm _ ih =>
    rcases List.mem_append.mp hc with hc | hc
    · exact Or.inl (hds.2 c hc)
    · rcases List.mem_cons.mp hc with rfl | hc
      · exact Or.inr hm
      · exact ih hc

/-- No character of a class without digits and marks is in a numeral with marks. -/
theorem IsMarked.forall_eq_false {n : List Char} (h : IsMarked n) {f : Char → Bool}
    (hperiod : f '.' = false) (hcomma : f ',' = false)
    (hdigit : ∀ c, isDecimalDigit c = true → f c = false) : ∀ c ∈ n, f c = false := by
  intro c hc
  rcases h.mem hc with hd | rfl | rfl
  · exact hdigit c (isDecimalDigit_of_isDigit hd)
  · exact hperiod
  · exact hcomma

theorem IsMarked.solid {n : List Char} (h : IsMarked n) : ∀ c ∈ n, isBlank c = false :=
  h.forall_eq_false (by decide) (by decide) fun _ => isBlank_of_isDecimalDigit

theorem IsMarked.silent {n : List Char} (h : IsMarked n) : Silent n :=
  h.forall_eq_false (by decide) (by decide) fun _ => isVerbal_of_isDecimalDigit

namespace ScaleNumber

/-- The words of the scale table. -/
def scaleNames : List String := scaleWords.map (·.1)

theorem proper_scaleNames : ∀ w ∈ scaleNames, IsProper w.toList :=
  fun w hw => (isPhrase_of_scaleWord w hw).1

/-- The scale words are spoken phrases of which no two begin with the same word. -/
theorem exists_spelling_scaleNames : ∃ ls, Spelled scaleNames ls ∧ (∀ l ∈ ls, IsSpoken l) ∧
    ∀ l ∈ ls, ∀ m ∈ ls, firstWord l = firstWord m → l = m := by
  constructor
  constructor
  · repeat' constructor
  · decide +kernel

theorem spoken_scaleNames : ∀ w ∈ scaleNames, IsSpoken w.toList := by
  obtain ⟨ls, hls, hspoken, -⟩ := exists_spelling_scaleNames
  exact forall_of_spelled ⟨ls, hls, hspoken⟩

theorem distinct_scaleNames : AreDistinct scaleNames := by
  obtain ⟨ls, hls, -, hdistinct⟩ := exists_spelling_scaleNames
  intro p hp q hq
  have hmem {w : String} (hw : w ∈ scaleNames) : w.toList ∈ ls := by
    rw [hls.eq_map]
    exact List.mem_map_of_mem hw
  exact hdistinct _ (hmem hp) _ (hmem hq)

theorem scaleExponent?_eq :
    ∀ s ∈ scaleWords, scaleExponent? s.1.toList = some s.2 := by decide +kernel

theorem prefers_scalePattern {w : String} (hw : w ∈ scaleNames) {b : Option Char} {a : List Char}
    (hb : b.any isWordCharacter = false) (ha : a.head?.any isWordCharacter = false) :
    scalePattern.Prefers b w.toList a [] :=
  prefers_pattern proper_scaleNames distinct_scaleNames hw
    (fits_self (proper_scaleNames w hw) hb ha)

/-! ## Numerals -/

/-- A numeral ends here: neither a digit nor a mark goes on. -/
def EndsNumeral (a : List Char) : Prop :=
  a.head?.any Char.isDigit = false ∧ a.head?.any (fun c => c == '.' || c == ',') = false

theorem endsNumeral_space {r : List Char} : EndsNumeral (' ' :: r) := by
  constructor
  · show Char.isDigit ' ' = false
    decide
  · show (' ' == '.' || ' ' == ',') = false
    decide

theorem prefers_digits {ds a : List Char} (hds : IsPlainDigits ds)
    (ha : a.head?.any Char.isDigit = false) {b : Option Char} :
    (atLeastOne asciiDigit).Prefers b ds a [] :=
  prefers_of_first fun _ _ hs => first_atLeastOne_char hds.1 hds.2 ha hs

theorem head_mark {m : Char} (hm : m = '.' ∨ m = ',') {r : List Char} :
    (m :: r).head?.any Char.isDigit = false := by
  rcases hm with rfl | rfl
  · show Char.isDigit '.' = false
    decide
  · show Char.isDigit ',' = false
    decide

theorem prefers_mark {m : Char} (hm : m = '.' ∨ m = ',') {b : Option Char} {a : List Char} :
    Pattern.mark.Prefers b [m] a [] := by
  rcases hm with rfl | rfl
  · exact prefers_char rfl
  · exact prefers_char rfl

/-- Where a numeral ends no marked part is read. -/
theorem prefers_noMarks {a : List Char} (ha : EndsNumeral a) {b : Option Char} :
    (many (inOrder [Pattern.mark, atLeastOne asciiDigit])).Prefers b [] a [] := by
  have hopens : (inOrder [Pattern.mark, atLeastOne asciiDigit]).Opens
      (fun c => c == '.' || c == ',') := opens_char.seq
  refine prefers_many_nil fun w a' k hw hread => ?_
  have hhead := hopens _ _ _ _ hread
  rw [← hw, ha.2] at hhead
  exact Bool.false_ne_true hhead

/-- Marked parts are read one by one. -/
theorem prefers_marks {m : Char} (hm : m = '.' ∨ m = ',') {n a : List Char} (hn : IsMarked n)
    (ha : EndsNumeral a) {b : Option Char} :
    (many (inOrder [Pattern.mark, atLeastOne asciiDigit])).Prefers b (m :: n) a [] := by
  have hitem {m : Char} (hm : m = '.' ∨ m = ',') {ds r : List Char} (hds : IsPlainDigits ds)
      (hr : r.head?.any Char.isDigit = false) {b : Option Char} :
      (inOrder [Pattern.mark, atLeastOne asciiDigit]).Prefers b ([m] ++ ds) r [] :=
    (prefers_mark hm).seq (prefers_digits hds hr)
  induction hn generalizing m b with
  | @digits ds hds =>
    have hrow := prefers_many_cons (by simp) (hitem hm hds (b := b) ha.1) (prefers_noMarks ha)
    rwa [List.append_nil] at hrow
  | @mark ds m' rest hds hm' _ ih =>
    have hfirst := hitem hm hds (b := b) (r := m' :: rest ++ a) (head_mark hm')
    exact prefers_many_cons (by simp) hfirst (ih hm')

/-- A numeral with marks is read as a whole. -/
theorem prefers_marked {n a : List Char} (hn : IsMarked n) (ha : EndsNumeral a)
    {b : Option Char} : (marked asciiDigit).Prefers b n a [] := by
  cases hn with
  | digits hds =>
    have hrow := Prefers.seq (v := []) (prefers_digits hds ha.1 (b := b)) (prefers_noMarks ha)
    rwa [List.append_nil] at hrow
  | mark hds hm hrest =>
    exact (prefers_digits hds (head_mark hm)).seq (prefers_marks hm hrest ha)

/-! ## Scaled numbers and sums -/

theorem scale_solid {w : String} (hw : w ∈ scaleNames) {a : List Char} :
    (w.toList ++ a).head?.any isBlank = false :=
  (proper_scaleNames w hw).head_solid

theorem no_digit_scale {w : String} (hw : w ∈ scaleNames) : ∀ c ∈ w.toList, c.isDigit = false := by
  intro c hc
  rcases (spoken_scaleNames w hw).mem hc with rfl | hsmall
  · decide
  · exact isDigit_of_isLetter (isLetter_of_isSmallLatin hsmall)

/-- A numeral, a space and a scale word are a scaled number. -/
theorem prefers_scaled {n : List Char} (hn : IsMarked n) {w : String} (hw : w ∈ scaleNames)
    {b : Option Char} {a : List Char} (ha : a.head?.any isWordCharacter = false) :
    scaled.Prefers b (n ++ ([' '] ++ w.toList)) a [(2, w.toList), (1, n)] :=
  ((prefers_marked hn endsNumeral_space).group 1).seq
    ((prefers_space (scale_solid hw)).seq ((prefers_scalePattern hw behind_space ha).group 2))

/-- The percent sign of a language, or a word for it, is not nothing. -/
theorem needsAt_sign (pack : LanguagePack) :
    (PercentPhrase.sign pack).NeedsAt fun _ _ => True :=
  (needsAt_found _).mono fun _ _ _ => trivial

/-- What a number may be continued by is not nothing. -/
theorem ne_nil_of_continuation {percent : Pattern} (hpercent : percent.NeedsAt fun _ _ => True)
    {b : Option Char} {w a : List Char} {k : List (Nat × List Char)}
    (h : (continuation percent).Reads b w a k) : w ≠ [] := by
  have hchar {f : Char → Bool} : (char f).NeedsAt fun _ _ => True :=
    needs_char.mono fun _ _ _ => trivial
  have hmark : Pattern.mark.NeedsAt fun _ _ => True := hchar
  have hgap : Pattern.gap.NeedsAt fun _ _ => True := hchar.seq_left
  have hall : (continuation percent).NeedsAt fun _ _ => True := by
    apply needsAt_oneOf
    intro p hp
    simp only [List.mem_cons, List.not_mem_nil, or_false] at hp
    rcases hp with rfl | rfl | rfl | rfl | rfl
    · exact hchar
    · exact needsAt_inOrder (by simp) hmark
    · exact needsAt_inOrder (by simp) hpercent
    · exact needsAt_inOrder (by simp) hgap
    · exact needsAt_inOrder (by simp) hgap
  obtain ⟨x, y, rfl, hy, -⟩ := hall _ _ _ _ h
  simp [hy]

/-! ### What is added -/

/-- A mark and three digits. -/
def thousands : Pattern := inOrder [Pattern.mark, times 3 asciiDigit]

/-- A mark and three digits stand here. -/
def BeginsGroup (text : List Char) : Prop :=
  ∃ m ds r, text = m :: (ds ++ r) ∧ (m = '.' ∨ m = ',') ∧ (∀ c ∈ ds, c.isDigit = true) ∧
    ds.length = 3

theorem beginsGroup_of_reads {b : Option Char} {w a : List Char} {k : List (Nat × List Char)}
    (h : thousands.Reads b w a k) : BeginsGroup (w ++ a) := by
  obtain ⟨u, ds, _, _, rfl, -, hmark, hdigits⟩ := reads_inOrder_cons.mp h
  obtain ⟨hall, hlength⟩ := of_reads_times (f := Char.isDigit) hdigits
  cases hmark with
  | @char _ _ m _ hm => exact ⟨m, ds, a, by simp, by simpa using hm, hall, hlength⟩

theorem BeginsGroup.head {text : List Char} (h : BeginsGroup text) :
    text.head?.any (fun c => c == '.' || c == ',') = true := by
  obtain ⟨m, ds, r, rfl, hm, -⟩ := h
  rcases hm with rfl | rfl <;> rfl

section Addend

variable {ds a : List Char} (hds : IsPlainDigits ds) (ha : a.head?.any Char.isDigit = false)

include hds ha

/-- Digits are read in groups only where there are one to three of them with a group behind. -/
theorem grouped_of_reads {b : Option Char} {w a' : List Char} {k : List (Nat × List Char)}
    (htext : ds ++ a = w ++ a')
    (h : (inOrder [upToThree asciiDigit, atLeastOne thousands]).Reads b w a' k) :
    ds.length ≤ 3 ∧ BeginsGroup a := by
  obtain ⟨x, y, _, _, rfl, -, hx, hy⟩ := reads_inOrder_cons.mp h
  obtain ⟨-, hdigits, hshort⟩ := of_reads_upToThree (f := Char.isDigit) hx
  have hbegins : BeginsGroup (y ++ a') := by
    have hy : (atLeastOne thousands).Reads (behind b x) y a' _ := hy
    cases hy with
    | seq hgroup _ =>
      rw [List.append_assoc]
      exact beginsGroup_of_reads hgroup
  have hmark : (y ++ a').head?.any Char.isDigit = false := by
    obtain ⟨m, e, r, htext, hm, -⟩ := hbegins
    rw [htext]
    exact head_mark hm
  rw [List.append_assoc] at htext
  obtain ⟨rfl, rfl⟩ := eq_of_spans hds.2 hdigits ha hmark htext
  exact ⟨hshort, hbegins⟩

/-- Where there are no groups the digits themselves are added. -/
theorem prefers_digitsAddend (hno : ¬ (ds.length ≤ 3 ∧ BeginsGroup a)) {b : Option Char} :
    addend.Prefers b ds a [] :=
  Prefers.right (fun _ _ _ htext hread => hno (grouped_of_reads hds ha htext hread))
    (prefers_digits hds ha)

end Addend

/-- Whole digits are added where the numeral ends. -/
theorem prefers_addend {ds a : List Char} (hds : IsPlainDigits ds) (ha : EndsNumeral a)
    {b : Option Char} : addend.Prefers b ds a [] := by
  refine prefers_digitsAddend hds ha.1 fun ⟨_, hgroup⟩ => ?_
  exact Bool.false_ne_true (ha.2.symm.trans hgroup.head)

theorem endsNumeral_nil : EndsNumeral [] := ⟨rfl, rfl⟩

/-- A scaled number, digits behind it that are added, and what they belong to, if anything, are read
in a row. -/
theorem prefers_sumRow {percent : Pattern} {n u v a : List Char} {k : List (Nat × List Char)}
    (hn : IsMarked n) {w : String} (hw : w ∈ scaleNames)
    (hu : addend.Prefers (some ' ') u (v ++ a) []) (hdigit : u.head?.any Char.isDigit = true)
    (hv : (optional (group 4 (continuation percent))).Prefers (behind (some ' ') u) v a k)
    {b : Option Char} :
    (scaledSum percent).Prefers b (n ++ ([' '] ++ (w.toList ++ ([' '] ++ (u ++ v))))) a
      (k ++ [(3, u), (2, w.toList), (1, n)]) := by
  have hsolid : (u ++ v ++ a).head?.any isBlank = false := by
    cases u with
    | nil => cases hdigit
    | cons d u => exact isBlank_of_isDecimalDigit (isDecimalDigit_of_isDigit hdigit)
  have hsum := ((prefers_scalePattern hw behind_space head_space).group 2).seq
    ((prefers_space hsolid).seq ((hu.group 3).seq hv))
  have hscale : (w.toList ++ ([' '] ++ (u ++ v)) ++ a).head?.any isBlank = false := by
    rw [List.append_assoc]
    exact scale_solid hw
  have hall := ((prefers_marked hn endsNumeral_space (b := b)).group 1).seq
    ((prefers_space hscale).seq hsum)
  have hkept : k ++ [(3, u)] ++ [] ++ [(2, w.toList)] ++ [] ++ [(1, n)] =
      k ++ [(3, u), (2, w.toList), (1, n)] := by simp
  rwa [hkept] at hall

/-- At the end of a text a number is not continued. -/
theorem prefers_noContinuation {percent : Pattern} (hpercent : percent.NeedsAt fun _ _ => True)
    {b : Option Char} : (optional (group 4 (continuation percent))).Prefers b [] [] [] := by
  refine prefers_optional_nil fun w a' k hw hread => ?_
  cases hread with
  | group hread =>
    exact ne_nil_of_continuation hpercent hread (List.append_eq_nil_iff.mp hw.symm).1

/-! ## Rewriting a scaled number that ends a text -/

theorem opens_addend : addend.Opens Char.isDigit := by
  have hdigits : (upToThree asciiDigit).Opens Char.isDigit :=
    OpensAt.alt opens_char.seq (OpensAt.alt opens_char.seq opens_char)
  exact OpensAt.alt hdigits.seq opens_char.seq

/-- A blank with a digit behind the gap stands here. -/
def GapDigitAt (before : Option Char) (rest : List Char) : Prop :=
  rest.head?.any isBlank = true ∧
    PastBlanks (fun _ r => r.head?.any Char.isDigit = true) before rest

theorem needsAt_scaledSum (percent : Pattern) : (scaledSum percent).NeedsAt GapDigitAt := by
  intro b w a k hread
  obtain ⟨n, w1, _, _, rfl, -, -, hrow1⟩ := reads_inOrder_cons.mp hread
  obtain ⟨g, w2, _, _, rfl, -, -, hrow2⟩ := reads_inOrder_cons.mp hrow1
  obtain ⟨s, w3, _, _, rfl, -, -, hrow3⟩ := reads_inOrder_cons.mp hrow2
  obtain ⟨i, w4, _, _, rfl, -, hgap, hrow4⟩ := reads_inOrder_cons.mp hrow3
  obtain ⟨d, w5, _, _, rfl, -, haddend, -⟩ := reads_inOrder_cons.mp hrow4
  obtain ⟨hne, hblank, -⟩ := reads_gap.mp hgap
  obtain ⟨c, i, rfl⟩ := List.exists_cons_of_ne_nil hne
  have hdigit := opens_addend.group 3 _ _ _ _ haddend
  have hsolid : (d ++ w5 ++ a).head?.any isBlank = false := by
    rw [List.append_assoc]
    cases hd : d ++ (w5 ++ a) with
    | nil => rfl
    | cons e r =>
      rw [hd] at hdigit
      exact isBlank_of_isDecimalDigit (isDecimalDigit_of_isDigit hdigit)
  refine ⟨n ++ (g ++ s), c :: i ++ (d ++ w5), by simp, by simp, hblank c List.mem_cons_self,
    c :: i, d ++ w5 ++ a, by simp, hblank, hsolid, ?_⟩
  rw [List.append_assoc]
  exact hdigit

section End

variable {n : List Char} (hn : IsMarked n) {w : String} (hw : w ∈ scaleNames)

include hn hw

/-- A scaled number that ends a text is no sum. -/
theorem nowhere_gapDigit : Nowhere GapDigitAt none (n ++ ([' '] ++ w.toList)) [] := by
  have hplain : ∀ c ∈ [' '] ++ w.toList, c.isDigit = false :=
    List.forall_mem_append.mpr ⟨by decide, no_digit_scale hw⟩
  refine nowhere_append.mpr ⟨(nowhere_head hn.solid).mono fun _ _ h => h.1, ?_⟩
  -- behind the first blank there is no digit at all
  rintro v c u hu ⟨-, g, y, hrow, -, -, hy⟩
  rw [List.append_nil] at hrow
  cases y with
  | nil => cases hy
  | cons d y =>
    have hmem : d ∈ [' '] ++ w.toList := by
      rw [hu, hrow]
      simp
    exact Bool.false_ne_true ((hplain d hmem).symm.trans hy)

/-- A scaled number is all that is read of a text that it ends. -/
theorem rewrite_scaled (mark : DecimalMark) (percent : Pattern) :
    ScaleNumber.rewrite mark (scaledSum percent) (n ++ ([' '] ++ w.toList)) =
      rewriteScaled mark ⟨n ++ ([' '] ++ w.toList), [(2, w.toList), (1, n)]⟩ := by
  have hsums := (needsAt_scaledSum percent).rewriteAfter (rewriteSum mark) (nowhere_gapDigit hn hw)
  have hne : n ++ ([' '] ++ w.toList) ≠ [] := by simp
  have hfound := (prefers_scaled hn hw (b := none) (a := []) rfl).matchAt?_eq hne
  have hscaled := rewriteAfter_found (m := ⟨_, [(2, w.toList), (1, n)]⟩) (rewriteScaled mark) hfound
  rw [rewriteAfter_nil, List.append_nil, List.append_nil] at hscaled
  unfold ScaleNumber.rewrite
  rw [rewrite_eq_rewriteAfter, rewrite_eq_rewriteAfter, hsums, hscaled]

end End

theorem value?_scale {n : List Char} {s : String × Nat} (hs : s ∈ scaleWords) {mark : DecimalMark}
    {d : Decimal} (hd : Decimal.ofNumeral? mark n = some d) :
    value? mark n s.1.toList = some (d.shift s.2) := by
  rw [value?, scaleExponent?_eq s hs, hd]
  rfl

/-- A match with a value is written as that value. -/
theorem rewriteScaled_of_value {mark : DecimalMark} {m : Match} {d : Decimal}
    (h : value? mark (m.group 1) (m.group 2) = some d) : rewriteScaled mark m = d.text := by
  rw [rewriteScaled, h]

/-- What stands alone behind the scale word is added, if the sum is not too large. -/
theorem rewriteSum_of_value {mark : DecimalMark} {m : Match} {d : Decimal}
    (h : value? mark (m.group 1) (m.group 2) = some d) (halone : m.group? 4 = none)
    (hlimit : d.whole + Nat.ofDigitChars 10 ((m.group 3).filter Char.isDigit) 0 < sumLimit) :
    rewriteSum mark m =
      (d.addWhole (Nat.ofDigitChars 10 ((m.group 3).filter Char.isDigit) 0)).text := by
  rw [rewriteSum, h, halone]
  exact if_pos hlimit

/-- A sum that is too large stays, to be read without the second number. -/
theorem rewriteSum_of_tooLarge {mark : DecimalMark} {m : Match} {d : Decimal}
    (h : value? mark (m.group 1) (m.group 2) = some d) (halone : m.group? 4 = none)
    (hlimit : sumLimit ≤ d.whole + Nat.ofDigitChars 10 ((m.group 3).filter Char.isDigit) 0) :
    rewriteSum mark m = m.text := by
  rw [rewriteSum, h, halone]
  exact if_neg (Nat.not_lt.mpr hlimit)

/-- A second number that belongs to something else is kept apart. -/
theorem rewriteSum_of_continued {mark : DecimalMark} {m : Match} {d : Decimal}
    (h : value? mark (m.group 1) (m.group 2) = some d) {v : List Char} (hv : m.group? 4 = some v) :
    rewriteSum mark m = d.text ++ ' ' :: (m.group 3 ++ v) := by
  rw [rewriteSum, h, hv]
  exact List.append_assoc _ _ _

theorem opens_scaled : scaled.Opens Char.isDigit := (opens_atLeastOne_char.seq.group 1).seq

theorem opens_scaledSum (percent : Pattern) : (scaledSum percent).Opens Char.isDigit :=
  (opens_atLeastOne_char.seq.group 1).seq

/-- A scaled number in front of a space is written out, and reading goes on behind the space. -/
theorem scaled_front {n : List Char} (hn : IsMarked n) {s : String × Nat} (hs : s ∈ scaleWords)
    {mark : DecimalMark} {d : Decimal} (hd : Decimal.ofNumeral? mark n = some d) (r : List Char) :
    scaled.rewrite (rewriteScaled mark) (n ++ ([' '] ++ (s.1.toList ++ ([' '] ++ r)))) =
      (d.shift s.2).text ++ ' ' :: scaled.rewrite (rewriteScaled mark) r := by
  have hfound := (prefers_scaled hn (List.mem_map_of_mem hs) (b := none) (a := ' ' :: r)
    head_space).rewriteAfter_eq (by simp) (rewriteScaled mark)
  rw [rewriteAfter_space opens_scaled (by decide), rewriteScaled_of_value
    (m := ⟨_, [(2, s.1.toList), (1, n)]⟩) (value?_scale hs hd)] at hfound
  rw [rewrite_eq_rewriteAfter]
  simpa using hfound

/-- A scaled number that ends a text is written as the number times its power of ten. -/
theorem rewrite_valued {n : List Char} (hn : IsMarked n) {s : String × Nat} (hs : s ∈ scaleWords)
    {mark : DecimalMark} {d : Decimal} (hd : Decimal.ofNumeral? mark n = some d)
    (percent : Pattern) :
    ScaleNumber.rewrite mark (scaledSum percent) (n ++ ([' '] ++ s.1.toList)) =
      (d.shift s.2).text := by
  rw [rewrite_scaled hn (List.mem_map_of_mem hs)]
  exact rewriteScaled_of_value (value?_scale hs hd)

/-! ## A number behind the scale word that ends a text -/

/-- No speech is left in the written form of a decimal. -/
theorem silent_text (d : Decimal) : Silent d.text :=
  d.hasValue_text.forall_eq_false (by decide) fun _ => isVerbal_of_isDecimalDigit

section Added

variable {n : List Char} (hn : IsMarked n) {s : String × Nat} (hs : s ∈ scaleWords)
  {mark : DecimalMark} {d : Decimal} (hd : Decimal.ofNumeral? mark n = some d)
  {percent : Pattern} (hpercent : percent.NeedsAt fun _ _ => True)
  {u : List Char} (hu : addend.Prefers (some ' ') u [] [])
  (hdigit : u.head?.any Char.isDigit = true)

include hn hs hd hpercent hu hdigit

/-- The sums of a text that is one. -/
theorem sums_added : (scaledSum percent).rewrite (rewriteSum mark)
    (n ++ ([' '] ++ (s.1.toList ++ ([' '] ++ u)))) =
      if (d.shift s.2).whole + Nat.ofDigitChars 10 (u.filter Char.isDigit) 0 < sumLimit then
        ((d.shift s.2).addWhole (Nat.ofDigitChars 10 (u.filter Char.isDigit) 0)).text
      else n ++ ([' '] ++ (s.1.toList ++ ([' '] ++ u))) := by
  have hrow := prefers_sumRow (v := []) (a := []) hn (List.mem_map_of_mem hs)
    (by rwa [List.append_nil]) hdigit (prefers_noContinuation hpercent) (b := none)
  rw [List.append_nil] at hrow
  have hfound := hrow.rewriteAfter_eq (by simp) (rewriteSum mark)
  rw [rewriteAfter_nil, List.append_nil, List.append_nil] at hfound
  rw [rewrite_eq_rewriteAfter, hfound]
  have halone (text : List Char) :
      Match.group? ⟨text, [(3, u), (2, s.1.toList), (1, n)]⟩ 4 = none := rfl
  have hvalue := value?_scale hs hd
  by_cases hlimit : (d.shift s.2).whole +
      Nat.ofDigitChars 10 (u.filter Char.isDigit) 0 < sumLimit
  · rw [if_pos hlimit]
    exact rewriteSum_of_value (m := ⟨_, [(3, u), (2, s.1.toList), (1, n)]⟩) hvalue (halone _) hlimit
  · rw [if_neg hlimit]
    exact rewriteSum_of_tooLarge (m := ⟨_, [(3, u), (2, s.1.toList), (1, n)]⟩) hvalue (halone _)
      (Nat.not_lt.mp hlimit)

/-- A number behind the scale word is added. -/
theorem rewrite_added (hlimit : (d.shift s.2).whole +
      Nat.ofDigitChars 10 (u.filter Char.isDigit) 0 < sumLimit) :
    ScaleNumber.rewrite mark (scaledSum percent) (n ++ ([' '] ++ (s.1.toList ++ ([' '] ++ u)))) =
      ((d.shift s.2).addWhole (Nat.ofDigitChars 10 (u.filter Char.isDigit) 0)).text := by
  unfold ScaleNumber.rewrite
  rw [sums_added hn hs hd hpercent hu hdigit, if_pos hlimit, rewrite_eq_rewriteAfter]
  exact rewriteAfter_of_needs needs_scaled (rewriteScaled mark) none (silent_text _)

/-- A number that makes the sum too large is kept apart. -/
theorem rewrite_tooLarge (hsilent : Silent u) (hlimit : sumLimit ≤
      (d.shift s.2).whole + Nat.ofDigitChars 10 (u.filter Char.isDigit) 0) :
    ScaleNumber.rewrite mark (scaledSum percent) (n ++ ([' '] ++ (s.1.toList ++ ([' '] ++ u)))) =
      (d.shift s.2).text ++ ' ' :: u := by
  have halone : scaled.rewrite (rewriteScaled mark) u = u :=
    rewriteAfter_of_needs needs_scaled (rewriteScaled mark) none hsilent
  unfold ScaleNumber.rewrite
  rw [sums_added hn hs hd hpercent hu hdigit, if_neg (Nat.not_lt.mpr hlimit), scaled_front hn hs hd,
    halone]

end Added

/-! ## Whole numbers -/

section Whole

variable {ds es : List Char} (hds : IsPlainDigits ds) (hes : IsPlainDigits es) {s : String × Nat}
  (hs : s ∈ scaleWords) (mark : DecimalMark)

/-- A decimal without places is written as its digits. -/
theorem text_whole (n : Nat) : (⟨n, 0⟩ : Decimal).text = Nat.toDigits 10 n := by
  have hwhole : (⟨n, 0⟩ : Decimal).whole = n := Nat.div_one n
  have hfraction : (⟨n, 0⟩ : Decimal).fractionDigits = [] := by
    have hmod : n % Nat.pow 10 0 = 0 := Nat.mod_one n
    simp only [Decimal.fractionDigits, hmod]
    rfl
  rw [Decimal.text, hwhole, hfraction]
  exact List.append_nil _

theorem text_shift (n e : Nat) : ((⟨n, 0⟩ : Decimal).shift e).text = Nat.toDigits 10 (n * 10 ^ e) :=
  text_whole _

theorem whole_shift (n e : Nat) : ((⟨n, 0⟩ : Decimal).shift e).whole = n * 10 ^ e :=
  Nat.div_one _

theorem text_addWhole (n e m : Nat) : (((⟨n, 0⟩ : Decimal).shift e).addWhole m).text =
    Nat.toDigits 10 (n * 10 ^ e + m) := by
  have hone : Nat.pow 10 0 = 1 := rfl
  have hshift : (⟨n, 0⟩ : Decimal).shift e = ⟨n * 10 ^ e, 0⟩ := rfl
  rw [hshift, Decimal.addWhole, hone, Nat.mul_one, text_whole]

include hds

/-- Digits without marks are a whole number, whatever the decimal mark. -/
theorem ofNumeral?_digits : Decimal.ofNumeral? mark ds = some ⟨Nat.ofDigitChars 10 ds 0, 0⟩ := by
  have hwhole := ofNumeral?_whole hds (filter_grouping mark hds.2)
  rwa [Decimal.ofDigits, List.append_nil] at hwhole

include hs

/-- A whole number and a scale word are written as digits. -/
theorem rewrite_whole (percent : Pattern) :
    ScaleNumber.rewrite mark (scaledSum percent) (ds ++ ([' '] ++ s.1.toList)) =
      Nat.toDigits 10 (Nat.ofDigitChars 10 ds 0 * 10 ^ s.2) := by
  rw [rewrite_valued (.digits hds) hs (ofNumeral?_digits hds mark)]
  exact text_whole _

include hes

/-- The sums of a whole number, a scale word and a number behind it. -/
theorem sums_whole {percent : Pattern} (hpercent : percent.NeedsAt fun _ _ => True) :
    (scaledSum percent).rewrite (rewriteSum mark)
      (ds ++ ([' '] ++ (s.1.toList ++ ([' '] ++ es)))) =
        if Nat.ofDigitChars 10 ds 0 * 10 ^ s.2 + Nat.ofDigitChars 10 es 0 < sumLimit then
          Nat.toDigits 10 (Nat.ofDigitChars 10 ds 0 * 10 ^ s.2 + Nat.ofDigitChars 10 es 0)
        else ds ++ ([' '] ++ (s.1.toList ++ ([' '] ++ es))) := by
  have hsums := sums_added (.digits hds) hs (ofNumeral?_digits hds mark) hpercent
    (prefers_addend hes endsNumeral_nil) hes.head
  rw [List.filter_eq_self.mpr hes.2, whole_shift, text_addWhole] at hsums
  exact hsums

/-- A whole number, a scale word and a number behind it are written as their sum. -/
theorem rewrite_wholeSum {percent : Pattern} (hpercent : percent.NeedsAt fun _ _ => True)
    (hlimit : Nat.ofDigitChars 10 ds 0 * 10 ^ s.2 + Nat.ofDigitChars 10 es 0 < sumLimit) :
    ScaleNumber.rewrite mark (scaledSum percent) (ds ++ ([' '] ++ (s.1.toList ++ ([' '] ++ es)))) =
      Nat.toDigits 10 (Nat.ofDigitChars 10 ds 0 * 10 ^ s.2 + Nat.ofDigitChars 10 es 0) := by
  have hadded := rewrite_added (.digits hds) hs (ofNumeral?_digits hds mark) hpercent
    (prefers_addend hes endsNumeral_nil) hes.head
  rw [List.filter_eq_self.mpr hes.2, whole_shift, text_addWhole] at hadded
  exact hadded hlimit

/-- Where the sum would be too large the second number is kept apart. -/
theorem rewrite_wholeTooLarge {percent : Pattern} (hpercent : percent.NeedsAt fun _ _ => True)
    (hlimit : sumLimit ≤ Nat.ofDigitChars 10 ds 0 * 10 ^ s.2 + Nat.ofDigitChars 10 es 0) :
    ScaleNumber.rewrite mark (scaledSum percent) (ds ++ ([' '] ++ (s.1.toList ++ ([' '] ++ es)))) =
      Nat.toDigits 10 (Nat.ofDigitChars 10 ds 0 * 10 ^ s.2) ++ ' ' :: es := by
  have hsilent : Silent es := fun c hc =>
    isVerbal_of_isDecimalDigit (isDecimalDigit_of_isDigit (hes.2 c hc))
  have hapart := rewrite_tooLarge (.digits hds) hs (ofNumeral?_digits hds mark) hpercent
    (prefers_addend hes endsNumeral_nil) hes.head hsilent
  rw [List.filter_eq_self.mpr hes.2, whole_shift, text_shift] at hapart
  exact hapart hlimit

end Whole

end ScaleNumber

end CalcSpeech
