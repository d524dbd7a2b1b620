import CalcSpeech.Proofs.Decimal
import CalcSpeech.Proofs.Point.Fronts
import CalcSpeech.Proofs.ScaleNumber

/-!
# Scale words behind the decimals

A scale word right behind the decimals of a number makes one scaled number of them and of all that
they are written with. Without one the scaled numbers of a text are read behind its front as if
the decimals stood alone (`IsFront.scaleNumbers`), and the decimals stay as they are
(`exists_scaleNumbers_tail`).
-/

namespace CalcSpeech

open Unicode Pattern Vocabulary

namespace ScaleNumber

/-- A gap and a scale word stand here. -/
def ScaleBehind (text : List Char) : Prop :=
  ∃ g s a, text = g ++ (s ++ a) ∧ (g ≠ [] ∧ ∀ c ∈ g, isBlank c = true) ∧
    Finds scaleNames (behind none g) s a

/-- A numeral with marks stands here, with a scale word behind it. -/
def ScaledAt (_before : Option Char) (text : List Char) : Prop :=
  ∃ n t, text = n ++ t ∧ IsMarked n ∧ ScaleBehind t

section Reading

variable {b : Option Char} {w a : List Char} {k : List (Nat × List Char)}

theorem reads_asciiDigits :
    (atLeastOne asciiDigit).Reads b w a k ↔ IsPlainDigits w ∧ k = [] := by
  unfold asciiDigit
  rw [reads_atLeastOne_char, IsPlainDigits, and_assoc]

theorem isMarked_of_reads (h : (marked asciiDigit).Reads b w a k) : IsMarked w := by
  have hmany {b : Option Char} {w a : List Char} {k : List (Nat × List Char)}
      (h : (many (inOrder [Pattern.mark, atLeastOne asciiDigit])).Reads b w a k) :
      ∀ ds, IsPlainDigits ds → IsMarked (ds ++ w) := by
    generalize hp : many (inOrder [Pattern.mark, atLeastOne asciiDigit]) = p at h
    induction h with
    | done =>
      intro ds hds
      rw [List.append_nil]
      exact .digits hds
    | more _ hpart _ _ ih =>
      intro ds hds
      obtain rfl := Pattern.many.inj hp
      obtain ⟨u, v, _, _, rfl, -, hmark, hdigits⟩ := reads_inOrder_cons.mp hpart
      cases hmark with
      | @char _ _ c _ hc =>
        have hplain := (reads_asciiDigits.mp hdigits).1
        rw [List.append_assoc]
        exact .mark hds (by simpa using hc) (ih rfl _ hplain)
    | _ => cases hp
  cases h with
  | seq hdigits hrow => exact hmany hrow _ (reads_asciiDigits.mp hdigits).1

/-- What is read of a numeral, a gap and a scale word, and perhaps more. -/
theorem opensAt_scaledRow (ps : List Pattern) :
    (inOrder (group 1 (marked asciiDigit) :: gap :: group 2 scalePattern :: ps)).OpensAt
      ScaledAt := by
  intro b w a k hread
  obtain ⟨n, w1, _, _, rfl, -, hnumeral, hrow1⟩ := reads_inOrder_cons.mp hread
  obtain ⟨g, w2, _, _, rfl, -, hgap, hrow2⟩ := reads_inOrder_cons.mp hrow1
  obtain ⟨s, w3, _, _, rfl, -, hscale, -⟩ := reads_inOrder_cons.mp hrow2
  obtain ⟨hne, hblank, -⟩ := reads_gap.mp hgap
  cases hnumeral with
  | group hmarked =>
    cases hscale with
    | group hscale =>
      obtain ⟨-, hfinds⟩ := reads_pattern.mp hscale
      refine ⟨n, g ++ (s ++ (w3 ++ a)), by simp, isMarked_of_reads hmarked, g, s, w3 ++ a, rfl,
        ⟨hne, hblank⟩, ?_⟩
      rw [behind_of_ne_nil _ hne] at hfinds ⊢
      exact hfinds

theorem opensAt_scaled : scaled.OpensAt ScaledAt := opensAt_scaledRow []

theorem opensAt_scaledSum (percent : Pattern) : (scaledSum percent).OpensAt ScaledAt :=
  opensAt_scaledRow _

end Reading

/-- A text without blanks in front of a gap is a numeral only as a whole. -/
theorem eq_of_marked {u t n t' : List Char} (hn : IsMarked n)
    (hu : ∀ c ∈ u, isBlank c = false) (ht : t.head?.all isBlank = true)
    (ht' : t'.head?.all isBlank = true) (htext : u ++ t = n ++ t') : t = t' := by
  have hhead {x : List Char} (hx : x.head?.all isBlank = true) :
      x.head?.any (fun c => !isBlank c) = false := by
    cases x with
    | nil => rfl
    | cons c x => simpa using hx
  have hsolid {x : List Char} (hx : ∀ c ∈ x, isBlank c = false) : ∀ c ∈ x, (!isBlank c) = true :=
    fun c hc => by rw [hx c hc]; rfl
  exact (eq_of_spans (hsolid hu) (hsolid hn.solid) (hhead ht) (hhead ht') htext).2

theorem all_isBlank_gap {g r : List Char} (hg : g ≠ [] ∧ ∀ c ∈ g, isBlank c = true) :
    (g ++ r).head?.all isBlank = true := by
  obtain ⟨c, g, rfl⟩ := List.exists_cons_of_ne_nil hg.1
  exact hg.2 c List.mem_cons_self

/-- A text without blanks in front of a gap has a scale word behind it, or none at all. -/
theorem ScaledAt.behind {b : Option Char} {u t : List Char} (hu : ∀ c ∈ u, isBlank c = false)
    (ht : t.head?.all isBlank = true) (h : ScaledAt b (u ++ t)) : ScaleBehind t := by
  obtain ⟨n, t', htext, hn, g, s, a, rfl, hg, hfinds⟩ := h
  rw [eq_of_marked hn hu ht (all_isBlank_gap hg) htext]
  exact ⟨g, s, a, rfl, hg, hfinds⟩

theorem ScaledAt.head {b : Option Char} {text : List Char} (h : ScaledAt b text) :
    text.head?.any Char.isDigit = true := by
  obtain ⟨n, t, rfl, hn, -⟩ := h
  obtain ⟨d, ds, rfl, hd⟩ := hn.exists_cons
  exact hd

/-- Text without blanks in front of a gap with no scale word behind it is no scaled number. -/
theorem nowhere_scaled {b : Option Char} {u t : List Char} (hu : ∀ c ∈ u, isBlank c = false)
    (ht : t.head?.all isBlank = true) (hno : ¬ ScaleBehind t) : Nowhere ScaledAt b u t := by
  intro v c w hv h
  exact hno (h.behind (u := c :: w) (fun d hd => hu d (by rw [hv]; exact List.mem_append_right _ hd)) ht)

/-! ## Sums and scaled numbers -/

/-- What is written for a sum begins with a digit, like the sum. -/
theorem head_rewriteSum {percent : Pattern} (mark : DecimalMark) {b : Option Char} {m : Match}
    {a : List Char} (h : (scaledSum percent).Reads b m.text a m.groups) :
    (rewriteSum mark m).head?.any Char.isDigit = true := by
  have hfront {u v : List Char} (hu : u.head?.any Char.isDigit = true) :
      (u ++ v).head?.any Char.isDigit = true := by
    cases u with
    | nil => cases hu
    | cons c u => exact hu
  have hself : m.text.head?.any Char.isDigit = true := by
    obtain ⟨n, w, _, _, hw, -, hnumeral, -⟩ := reads_inOrder_cons.mp h
    cases hnumeral with
    | group hmarked =>
      obtain ⟨d, ds, rfl, hd⟩ := (isMarked_of_reads hmarked).exists_cons
      rw [hw]
      exact hd
  unfold rewriteSum
  split
  · exact hself
  · rename_i value _
    split
    · exact hfront (hfront value.head_text)
    · dsimp only
      split
      · exact (value.addWhole _).head_text
      · exact hself

/-- Sums do not bring scale words to the front of what follows a number. -/
theorem ScaleBehind.of_rewriteAfter {percent : Pattern} {mark : DecimalMark} {b : Option Char}
    {t : List Char} (h : ScaleBehind ((scaledSum percent).rewriteAfter (rewriteSum mark) b t)) :
    ScaleBehind t := by
  obtain ⟨g, s, a, htext, ⟨hne, hblank⟩, e, he, hfits⟩ := h
  obtain ⟨p, hp, rfl⟩ := (mem_entries_of_proper proper_scaleNames).mp he
  have hspoken := spoken_scaleNames p hp
  have hplain : ∀ c ∈ g ++ s, c.isDigit = false := by
    intro c hc
    rw [Bool.eq_false_iff]
    intro hdigit
    have hdecimal := isDecimalDigit_of_isDigit hdigit
    have hnone : isBlank c = false ∧ isLetter c = false :=
      ⟨isBlank_of_isDecimalDigit hdecimal, isLetter_of_isDecimalDigit hdecimal⟩
    have hclass : isBlank c = true ∨ c ∈ p.toList := by
      rcases List.mem_append.mp hc with hc | hc
      · exact Or.inl (hblank c hc)
      · exact hfits.spells.blank_or_mem hc
    rcases hclass with hblank | hmem
    · exact Bool.false_ne_true (hnone.1.symm.trans hblank)
    · rcases hspoken.mem hmem with rfl | hsmall
      · exact absurd hdigit (by decide)
      · exact Bool.false_ne_true (hnone.2.symm.trans (isLetter_of_isSmallLatin hsmall))
  rw [← List.append_assoc] at htext
  -- whatever a sum writes begins with a digit, so the gap and the scale word were there before
  obtain ⟨a', rfl, hhead⟩ := exists_of_rewriteAfter (fun _ _ _ h => head_rewriteSum mark h) hplain htext
  have hsame : a'.head? = a.head? := by
    rcases hhead with hsame | hdigit
    · exact hsame
    · -- a scale word is not read in front of a digit
      have hend := hspoken.ends hfits
      cases a with
      | nil => cases hdigit
      | cons c a =>
        have hword := isWordCharacter_of_isDecimalDigit (isDecimalDigit_of_isDigit hdigit)
        exact absurd (hend.symm.trans hword) Bool.false_ne_true
  refine ⟨g, s, a', by rw [List.append_assoc], ⟨hne, hblank⟩, p.toList, he, hfits.spells, ?_, ?_⟩
  · obtain ⟨c, s, rfl⟩ := List.exists_cons_of_ne_nil (ne_nil_of_finds ⟨p.toList, he, hfits⟩)
    exact hfits.opens
  · rw [hsame]
    exact hfits.closes

end ScaleNumber

open ScaleNumber

/-! ## The stage as a whole -/

/-- A word for the decimal point is no scale word. -/
theorem PointWord.not_scaleBehind {pack : LanguagePack} {w x : List Char}
    (hw : PointWord (pack.otherStrings.map String.toList) w) :
    ¬ ScaleBehind (' ' :: (w ++ ' ' :: x)) := by
  rintro ⟨g, s, a, htext, ⟨-, hblank⟩, hfinds⟩
  have hbegins := (begins_of_finds proper_scaleNames hfinds).1
  have hspace : ∀ c ∈ [' '], isBlank c = true := by decide
  have hsolid : (w ++ ' ' :: x).head?.any isBlank = false :=
    IsProper.head_solid (Or.inl hw.spoken)
  obtain ⟨rfl, hrest⟩ := eq_of_spans hspace hblank hsolid hbegins.solid htext
  rw [← hrest] at hbegins
  exact hw.not_begins areOther_scales head_space behind_space hbegins

section Fronts

variable {pack : LanguagePack} {a u ds t : List Char} (hu : IsFront pack a u)
  (ha : ∀ c ∈ a, isDecimalDigit c = true) (hds : ∀ c ∈ ds, isDecimalDigit c = true)
  (ht : IsTail t) (hno : ¬ ScaleBehind t)

include ha hds ht hno hu in
/-- Nothing in a front is scaled if what follows the decimals is no scale word. -/
theorem IsFront.nowhere_scaled : Nowhere ScaledAt none u (ds ++ t) := by
  have hsolid {x : List Char} (hx : ∀ c ∈ x, isDecimalDigit c = true) :
      ∀ c ∈ x, isBlank c = false := fun c hc => isBlank_of_isDecimalDigit (hx c hc)
  cases hu with
  | @spoken w hw =>
    refine nowhere_append.mpr ⟨ScaleNumber.nowhere_scaled (hsolid ha)
      (IsTail.all_isBlank (Or.inr ⟨_, rfl⟩)) ?_, ?_⟩
    · rw [List.cons_append, List.append_assoc]
      exact hw.not_scaleBehind
    · refine (nowhere_head ?_).mono fun _ _ h => h.head
      intro c hc
      simp only [List.mem_cons, List.mem_append, List.not_mem_nil, or_false] at hc
      rcases hc with rfl | hc | rfl
      · decide
      · exact isDigit_of_isLetter (hw.isWord.2 c hc)
      · decide
  | written =>
    have hpoint : isBlank pack.decimalMark.point = false := by
      rcases point_cases pack.decimalMark with h | h <;> rw [h] <;> decide
    have hrow : Nowhere ScaledAt none (writtenFront a pack.decimalMark.point ++ ds) t := by
      refine ScaleNumber.nowhere_scaled ?_ ht.all_isBlank hno
      intro c hc
      rcases List.mem_append.mp hc with hc | hc
      · rcases List.mem_append.mp hc with hc | hc
        · exact hsolid ha c hc
        · rw [List.mem_singleton.mp hc]
          exact hpoint
      · exact hsolid hds c hc
    exact (nowhere_append.mp hrow).1

include hds ht hno

/-- One pass leaves the decimals, with no scale word behind them. -/
theorem sums_tail (mark : DecimalMark) (percent : Pattern) :
    ∃ t', (scaledSum percent).rewrite (rewriteSum mark) (ds ++ t) = ds ++ t' ∧ IsTail t' ∧
      ¬ ScaleBehind t' := by
  have hquiet := (opensAt_scaledSum percent).quiet (ScaleNumber.nowhere_scaled (b := none)
    (fun c hc => isBlank_of_isDecimalDigit (hds c hc)) ht.all_isBlank hno)
  obtain ⟨hrow, htail⟩ := rewrite_tail (rewriteSum mark) hquiet ht fun b r =>
    (opensAt_scaledSum percent).matchAt?_eq_none fun h => absurd h.head (by
      show ¬ Char.isDigit ' ' = true
      decide)
  exact ⟨_, hrow, htail, fun h => hno h.of_rewriteAfter⟩

/-- Decimals with no scale word behind them stay as they are. -/
theorem exists_scaleNumbers_tail (mark : DecimalMark) (percent : Pattern) :
    ∃ t', ScaleNumber.rewrite mark (scaledSum percent) (ds ++ t) = ds ++ t' ∧ IsTail t' := by
  obtain ⟨t', hsums, htail, hno'⟩ := sums_tail hds ht hno mark percent
  have hquiet := opensAt_scaled.quiet (ScaleNumber.nowhere_scaled (b := none)
    (fun c hc => isBlank_of_isDecimalDigit (hds c hc)) htail.all_isBlank hno')
  obtain ⟨hrow, htail'⟩ := rewrite_tail (rewriteScaled mark) hquiet htail fun b r =>
    opensAt_scaled.matchAt?_eq_none fun h => absurd h.head (by
      show ¬ Char.isDigit ' ' = true
      decide)
  refine ⟨_, ?_, htail'⟩
  rw [ScaleNumber.rewrite, hsums, hrow]

include hu ha

/-- Scaled numbers are read behind a front as if the decimals stood alone. -/
theorem IsFront.scaleNumbers (mark : DecimalMark) (percent : Pattern) :
    ScaleNumber.rewrite mark (scaledSum percent) (u ++ (ds ++ t)) =
      u ++ ScaleNumber.rewrite mark (scaledSum percent) (ds ++ t) := by
  obtain ⟨t', hsums, htail, hno'⟩ := sums_tail hds ht hno mark percent
  unfold ScaleNumber.rewrite
  rw [hu.rewrite_append (opensAt_scaledSum percent) (hu.nowhere_scaled ha hds ht hno), hsums,
    hu.rewrite_append opensAt_scaled (hu.nowhere_scaled ha hds htail hno')]

end Fronts

end CalcSpeech
