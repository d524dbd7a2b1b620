import CalcSpeech.Proofs.ScaleNumber.Kept

/-!
# A second number with marks

A number behind a scale word is added when it is digits alone, or one to three digits with groups of
exactly three behind them. As long as no more than three digits stand behind each of its marks, a
number that is not added stays behind the scaled one, and none of its digits is split off
(`scaleNumbers_marked`).
-/

namespace CalcSpeech

open Unicode Pattern Vocabulary

/-- A mark with digits behind it. -/
structure MarkedPart where
  mark : Char
  digits : List Char
  isMark : mark = '.' ∨ mark = ','
  isDigits : IsPlainDigits digits

/-- The text of marked parts in a row. -/
def partsText (parts : List MarkedPart) : List Char := parts.flatMap fun p => p.mark :: p.digits

theorem partsText_cons (p : MarkedPart) (parts : List MarkedPart) :
    partsText (p :: parts) = p.mark :: (p.digits ++ partsText parts) := rfl

theorem partsText_append (parts more : List MarkedPart) :
    partsText (parts ++ more) = partsText parts ++ partsText more := List.flatMap_append

/-- Behind digits marked parts begin with no digit. -/
theorem head_partsText (parts : List MarkedPart) :
    (partsText parts).head?.any Char.isDigit = false := by
  cases parts with
  | nil => rfl
  | cons p parts => exact ScaleNumber.head_mark p.isMark

theorem isMarked_parts {ds : List Char} (hds : IsPlainDigits ds) (parts : List MarkedPart) :
    IsMarked (ds ++ partsText parts) := by
  induction parts generalizing ds with
  | nil =>
    rw [show ds ++ partsText [] = ds from List.append_nil ds]
    exact .digits hds
  | cons p parts ih => exact .mark hds p.isMark (ih p.isDigits)

/-- Digits with marked parts behind them are added: there are none, or all of them are groups of
three behind one to three digits. -/
def IsAdded (ds : List Char) (parts : List MarkedPart) : Prop :=
  parts = [] ∨ ds.length ≤ 3 ∧ ∀ p ∈ parts, p.digits.length = 3

theorem IsAdded.full {ds : List Char} {parts : List MarkedPart} (h : IsAdded ds parts) :
    ∀ p ∈ parts, p.digits.length = 3 := by
  rcases h with rfl | ⟨-, hall⟩
  · exact fun p hp => absurd hp List.not_mem_nil
  · exact hall

namespace ScaleNumber

/-! ## What is read of a number with marks -/

/-- Digits that stand behind the mark of a group are three of those behind the mark of a part. -/
theorem BeginsGroup.length_ge {p : MarkedPart} {parts : List MarkedPart}
    (h : BeginsGroup (partsText (p :: parts))) : 3 ≤ p.digits.length := by
  obtain ⟨m, ds, r, htext, -, hdigits, hlength⟩ := h
  obtain ⟨-, htext⟩ := List.cons.inj ((partsText_cons p parts).symm.trans htext)
  rcases List.append_eq_append_iff.mp htext with ⟨u, rfl, hrest⟩ | ⟨u, hu, -⟩
  · -- no digit is behind the part
    cases u with
    | nil => simpa using hlength.ge
    | cons c u =>
      have hhead := head_partsText parts
      rw [hrest] at hhead
      exact absurd ((hdigits c (by simp)).symm.trans hhead) (by decide)
  · rw [hu, List.length_append]
    omega

theorem prefers_thousands {p : MarkedPart} (hp : p.digits.length = 3) {b : Option Char}
    {a : List Char} : thousands.Prefers b (p.mark :: p.digits) a [] := by
  have hdigits : (times 3 asciiDigit).Prefers (behind b [p.mark]) p.digits a [] :=
    hp ▸ prefers_times p.isDigits.2
  exact (prefers_mark p.isMark).seq hdigits

/-- Groups of three are read as far as they go. -/
theorem prefers_manyThousands {fulls : List MarkedPart} (h : ∀ p ∈ fulls, p.digits.length = 3)
    {a : List Char} (ha : ¬ BeginsGroup a) {b : Option Char} :
    (many thousands).Prefers b (partsText fulls) a [] := by
  induction fulls generalizing b with
  | nil =>
    refine prefers_many_nil fun w a' k htext hread => ha ?_
    rw [htext]
    exact beginsGroup_of_reads hread
  | cons p fulls ih =>
    obtain ⟨hp, hfulls⟩ := List.forall_mem_cons.mp h
    exact prefers_many_cons (List.cons_ne_nil _ _) (prefers_thousands hp) (ih hfulls)

/-- The mark of a part and the first digit behind it go on a decimal. -/
theorem exists_continuation (percent : Pattern) (b : Option Char) (p : MarkedPart)
    (parts : List MarkedPart) : ∃ v a, partsText (p :: parts) = v ++ a ∧
      (continuation percent).Reads b v a [] := by
  obtain ⟨d, ds, hds⟩ := List.exists_cons_of_ne_nil p.isDigits.1
  have hmark : (p.mark == '.' || p.mark == ',') = true := by
    rcases p.isMark with hm | hm <;> rw [hm] <;> rfl
  have hdigit : d.isDigit = true := p.isDigits.2 d (by rw [hds]; exact List.mem_cons_self)
  refine ⟨[p.mark] ++ [d], ds ++ partsText parts, ?_, ?_⟩
  · rw [partsText_cons, hds]
    rfl
  · exact .right (.left (.seq (.char hmark) (.char hdigit)))

section Marked

variable {ds : List Char} (hds : IsPlainDigits ds) {parts : List MarkedPart}
  (hshort : ∀ p ∈ parts, p.digits.length ≤ 3)

include hshort

/-- Parts that are full groups, and others that do not begin with one. -/
theorem exists_fulls : ∃ fulls others, parts = fulls ++ others ∧
    (∀ p ∈ fulls, p.digits.length = 3) ∧ ¬ BeginsGroup (partsText others) ∧
    ((∀ p ∈ parts, p.digits.length = 3) → others = []) := by
  induction parts with
  | nil => exact ⟨[], [], rfl, by simp, fun h => absurd h.head (by decide), fun _ => rfl⟩
  | cons p parts ih =>
    obtain ⟨hp, hrest⟩ := List.forall_mem_cons.mp hshort
    by_cases hfull : p.digits.length = 3
    · obtain ⟨fulls, others, hsplit, hfulls, hstop, hnone⟩ := ih hrest
      exact ⟨p :: fulls, others, by rw [hsplit, List.cons_append],
        List.forall_mem_cons.mpr ⟨hfull, hfulls⟩, hstop,
        fun hall => hnone (List.forall_mem_cons.mp hall).2⟩
    · refine ⟨[], p :: parts, rfl, by simp, fun hgroup => ?_,
        fun hall => absurd (hall p List.mem_cons_self) hfull⟩
      have hlength := hgroup.length_ge
      omega

include hds

/-- What is read to be added, and the parts behind it; there are none if the whole is added. -/
theorem exists_addend (b : Option Char) : ∃ u others,
    ds ++ partsText parts = u ++ partsText others ∧ addend.Prefers b u (partsText others) [] ∧
      u.head?.any Char.isDigit = true ∧ (others = [] ↔ IsAdded ds parts) := by
  obtain ⟨fulls, others, hsplit, hfulls, hstop, hnone⟩ := exists_fulls hshort
  by_cases hgrouped : ds.length ≤ 3 ∧ fulls ≠ []
  · obtain ⟨hthree, hne⟩ := hgrouped
    refine ⟨ds ++ partsText fulls, others, by rw [hsplit, partsText_append, List.append_assoc],
      ?_, ?_, ?_⟩
    · obtain ⟨p, fulls, rfl⟩ := List.exists_cons_of_ne_nil hne
      obtain ⟨hp, hrest⟩ := List.forall_mem_cons.mp hfulls
      have hmark : (partsText (p :: fulls) ++ partsText others).head?.any Char.isDigit = false :=
        head_mark p.isMark
      have hgroups {b : Option Char} : (atLeastOne thousands).Prefers b (partsText (p :: fulls))
          (partsText others) [] := (prefers_thousands hp).seq (prefers_manyThousands hrest hstop)
      exact ((prefers_upToThree hds.1 hthree hds.2 hmark).seq hgroups).left
    · obtain ⟨d, ds, rfl⟩ := List.exists_cons_of_ne_nil hds.1
      exact hds.head
    · refine ⟨?_, fun hadded => hnone hadded.full⟩
      rintro rfl
      rw [List.append_nil] at hsplit
      exact Or.inr ⟨hthree, hsplit ▸ hfulls⟩
  · -- the digits alone are added, or there are too many of them for a group behind them
    have hothers (hthree : ds.length ≤ 3) : parts = others := by
      rw [hsplit, not_and_not_right.mp hgrouped hthree, List.nil_append]
    refine ⟨ds, parts, rfl, prefers_digitsAddend hds (head_partsText parts) ?_, hds.head, ?_⟩
    · rintro ⟨hthree, hgroup⟩
      rw [hothers hthree] at hgroup
      exact hstop hgroup
    · refine ⟨Or.inl, ?_⟩
      rintro (hempty | ⟨hthree, hall⟩)
      · exact hempty
      · exact (hothers hthree).trans (hnone hall)

end Marked

end ScaleNumber

/-! ## Sums with a number that has marks -/

/-- A number with at most three digits behind each of its marks is added as a whole, or it stays as
it is behind the scaled number. -/
theorem scaleNumbers_marked {pack : LanguagePack} {lexicon : Lexicon}
    (hlexicon : Lexicon.ofPack pack = .ok lexicon) {n : List Char} (hn : IsMarked n)
    {s : String × Nat} (hs : s ∈ scaleWords) {d : Decimal}
    (hd : Decimal.ofNumeral? pack.decimalMark n = some d) {ds : List Char}
    (hds : IsPlainDigits ds) {parts : List MarkedPart}
    (hshort : ∀ p ∈ parts, p.digits.length ≤ 3) :
    let second := Nat.ofDigitChars 10 ((ds ++ partsText parts).filter Char.isDigit) 0
    let isSum := IsAdded ds parts ∧ (d.shift s.2).whole + second < ScaleNumber.sumLimit
    let written := Stage.scaleNumbers.rewrite lexicon
      (n ++ ([' '] ++ (s.1.toList ++ ([' '] ++ (ds ++ partsText parts)))))
    (isSum → written = ((d.shift s.2).addWhole second).text) ∧
      (¬ isSum → written = (d.shift s.2).text ++ ' ' :: (ds ++ partsText parts)) := by
  intro second isSum written
  have hof := Lexicon.isOf_of_ofPack hlexicon
  have hwritten : written = ScaleNumber.rewrite pack.decimalMark
      (ScaleNumber.scaledSum (PercentPhrase.sign pack))
      (n ++ ([' '] ++ (s.1.toList ++ ([' '] ++ (ds ++ partsText parts))))) := by
    rw [← hof.scaledSum, ← hof.pack_eq]
    rfl
  have hmarked := isMarked_parts hds parts
  obtain ⟨u, others, htext, hread, hdigit, hwhole⟩ :=
    ScaleNumber.exists_addend hds hshort (some ' ')
  have hpercent := ScaleNumber.needsAt_sign pack
  cases others with
  | nil =>
    have hadded : IsAdded ds parts := hwhole.mp rfl
    have hu : u = ds ++ partsText parts := by rw [htext]; exact (List.append_nil u).symm
    rw [hu] at hread hdigit
    constructor
    · intro hsum
      rw [hwritten]
      exact ScaleNumber.rewrite_added hn hs hd hpercent hread hdigit hsum.2
    · intro hnot
      have hlimit : ScaleNumber.sumLimit ≤ (d.shift s.2).whole + second :=
        Nat.not_lt.mp fun hlt => hnot ⟨hadded, hlt⟩
      rw [hwritten]
      exact ScaleNumber.rewrite_tooLarge hn hs hd hpercent hread hdigit hmarked.silent hlimit
  | cons p others =>
    have hnot : ¬ IsAdded ds parts := fun hadded => List.cons_ne_nil p others (hwhole.mpr hadded)
    refine ⟨fun hsum => absurd hsum.1 hnot, fun _ => ?_⟩
    obtain ⟨v, a, hrest, hcontinued⟩ := ScaleNumber.exists_continuation
      (PercentPhrase.sign pack) (behind (some ' ') u) p others
    have hletter : ∀ c ∈ ds ++ partsText parts, isLetter c = false :=
      hmarked.forall_eq_false (by decide) (by decide) fun _ => isLetter_of_isDecimalDigit
    rw [htext, hrest] at hletter
    rw [hrest] at hread
    rw [hwritten, htext, hrest]
    exact ScaleNumber.rewrite_continued hn hs hd hread hdigit hcontinued
      (ScaleNumber.nowhere_scaleName hletter)

end CalcSpeech
