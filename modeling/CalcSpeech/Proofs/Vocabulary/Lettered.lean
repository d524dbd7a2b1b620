import CalcSpeech.Proofs.Language.Code
import CalcSpeech.Proofs.Pattern.Cut
import CalcSpeech.Proofs.Vocabulary.Prepared

/-!
# Phrases between letters, and vocabularies in a cut text

A phrase that begins and ends with a letter is kept in a form that begins with an alphabetic
character and has a word character at both ends (`hasWordEnds_of_mem`): the small form of a letter
is a letter, or the letter and the mark that the dotted capital I turns into.

So where such a phrase is found no word goes on in front of it, nor behind it where it ends in a
letter or digit (`Fits.sealed`), and the text may be cut there. A vocabulary sees nothing of a cut
that no word goes across (`cutAt_pattern`).
-/

namespace CalcSpeech

open Unicode Text Pattern

namespace Unicode

/-! ## The small forms of letters -/

/-- The span that a run of the case table leads to. -/
def CaseRun.image (run : CaseRun) : Span :=
  ((run.first + run.shift).toNat, (run.last + run.shift).toNat + 1)

/-- Whether a run leads to recent characters only from recent ones. -/
def CaseRun.keepsRecent (run : CaseRun) : Bool :=
  apart 100 [run.image] recentPoints.spans ||
    (List.range' run.first (run.last + 1 - run.first)).all fun n => !run.covers n ||
      insideTest recentPoints.spans n || !insideTest recentPoints.spans (n + run.shift).toNat

/-- What sweeps over the case table find. -/
structure SmallLetterSweeps : Prop where
  valid : caseRuns.all (fun run => run.image.2 ≤ 0xD800 ||
    (0xE000 ≤ run.image.1 && run.image.2 ≤ 0x110000)) = true
  forward : caseRuns.all (fun run => 0x80 ≤ run.first && 0 ≤ run.first + run.shift) = true
  alphabetic : caseRuns.all (fun run => within 2000 [run.image] alphabeticSpans) = true
  recent : caseRuns.all CaseRun.keepsRecent = true
  ascending : Ascending recentPoints.spans
  foreign : alphabeticPoints.spans.all (fun span => 0x80 ≤ span.1) = true
  lower : (List.range 0x80).all (fun n =>
    !(Char.ofNat n).isAlpha || (Char.ofNat n).toLower.isAlpha) = true
  capitals : ['ς', 'σ', 'i'].all (fun c => isAlphabetic c && isWordCharacter c) = true
  dot : isWordCharacter '\u0307' = true

theorem smallLetterSweeps : SmallLetterSweeps := by
  constructor <;> decide +kernel

theorem isAlpha_of_span {c : Char}
    (h : Span.Holds (0x41, 0x5B) c.toNat ∨ Span.Holds (0x61, 0x7B) c.toNat) : c.isAlpha = true := by
  have hall : ∀ n < 0x80, 0x41 ≤ n ∧ n < 0x5B ∨ 0x61 ≤ n ∧ n < 0x7B →
      (Char.ofNat n).isAlpha = true := by decide
  have hascii : c.toNat < 0x80 := by
    simp only [Span.Holds] at h
    omega
  have hchar := hall c.toNat hascii h
  rwa [Char.ofNat_toNat] at hchar

/-- An alphabetic character that patterns know holds a word together. -/
theorem word_of_inside {c : Char} (h : Inside alphabeticSpans c.toNat)
    (hr : ¬ Inside recentPoints.spans c.toNat) :
    isAlphabetic c = true ∧ isWordCharacter c = true := by
  have halphabetic : isAlphabetic c = true := by
    obtain ⟨span, hspan, hlow, hhigh⟩ := h
    rw [isAlphabetic]
    simp only [alphabeticSpans, List.mem_cons] at hspan
    rcases hspan with rfl | rfl | hspan
    · rw [if_pos (Nat.lt_trans hhigh (by decide))]
      exact isAlpha_of_span (Or.inl ⟨hlow, hhigh⟩)
    · rw [if_pos (Nat.lt_trans hhigh (by decide))]
      exact isAlpha_of_span (Or.inr ⟨hlow, hhigh⟩)
    · have hforeign := List.all_eq_true.mp (smallLetterSweeps).foreign span hspan
      have hlarge := Nat.le_trans (of_decide_eq_true hforeign) hlow
      rw [if_neg (Nat.not_lt.mpr hlarge), SwitchPoints.contains_iff alphabeticPoints_sound]
      exact ⟨span, hspan, hlow, hhigh⟩
  refine ⟨halphabetic, ?_⟩
  rw [isWordCharacter]
  split
  · rename_i hascii
    rw [isAlphabetic, if_pos hascii] at halphabetic
    rw [Char.isAlphanum, halphabetic]
    rfl
  · rw [halphabetic, isRecent_of_not_inside hr]
    rfl

/-- A run leads from a letter to an alphabetic character that holds a word together. -/
theorem word_of_run {run : CaseRun} (hrun : run ∈ caseRuns) {n : Nat} (hn : run.covers n = true)
    (hr : ¬ Inside recentPoints.spans n) : isAlphabetic (Char.ofNat (n + run.shift).toNat) = true ∧
      isWordCharacter (Char.ofNat (n + run.shift).toNat) = true := by
  have hvalid := List.all_eq_true.mp (smallLetterSweeps).valid run hrun
  have hforward := List.all_eq_true.mp (smallLetterSweeps).forward run hrun
  have halphabetic := List.all_eq_true.mp (smallLetterSweeps).alphabetic run hrun
  have hrecent := List.all_eq_true.mp (smallLetterSweeps).recent run hrun
  have hcovers := hn
  simp only [CaseRun.covers, Bool.and_eq_true, decide_eq_true_eq] at hcovers
  simp only [Bool.or_eq_true, Bool.and_eq_true, decide_eq_true_eq] at hvalid hforward
  simp only [CaseRun.image] at hvalid
  have himage : Inside [run.image] (n + run.shift).toNat := by
    refine ⟨run.image, List.mem_singleton_self _, ?_, ?_⟩
    · show (run.first + run.shift).toNat ≤ (n + run.shift).toNat
      omega
    · show (n + run.shift).toNat < (run.last + run.shift).toNat + 1
      omega
  have hpoint : (Char.ofNat (n + run.shift).toNat).toNat = (n + run.shift).toNat := by
    have hchar : (n + run.shift).toNat.isValidChar := by
      unfold Nat.isValidChar
      omega
    rw [Char.ofNat, dif_pos hchar]
    rfl
  apply word_of_inside
  · rw [hpoint]
    exact inside_of_within halphabetic himage
  · rw [hpoint]
    rw [CaseRun.keepsRecent, Bool.or_eq_true] at hrecent
    rcases hrecent with hapart | hall
    · exact not_inside_of_apart (List.isChain_singleton _) (smallLetterSweeps).ascending hapart
        himage
    · have hone := List.all_eq_true.mp hall n
        (List.mem_range'_1.mpr ⟨hcovers.1.1, by omega⟩)
      have hold : insideTest recentPoints.spans n = false := by
        rw [Bool.eq_false_iff, ne_eq, insideTest_iff]
        exact hr
      rw [hn, hold, Bool.not_true, Bool.false_or, Bool.false_or, Bool.not_eq_true'] at hone
      rw [← insideTest_iff, hone]
      exact Bool.false_ne_true

/-- What a letter is written as in lowercase: an alphabetic character first, and word characters
only. -/
structure IsSmallForm (small : List Char) : Prop where
  head : ∃ c ∈ small.head?, isAlphabetic c = true
  word : ∀ d ∈ small, isWordCharacter d = true

theorem isSmallForm_singleton {c : Char}
    (h : isAlphabetic c = true ∧ isWordCharacter c = true) : IsSmallForm [c] :=
  ⟨⟨c, rfl, h.1⟩, List.forall_mem_singleton.mpr h.2⟩

theorem isSmallForm_lowercaseAlone {c : Char} (h : isLetter c = true) :
    IsSmallForm (lowercaseAlone c) := by
  have hcapital {d : Char} (hd : d ∈ ['ς', 'σ', 'i']) :
      isAlphabetic d = true ∧ isWordCharacter d = true := by
    have := List.all_eq_true.mp (smallLetterSweeps).capitals d hd
    rwa [Bool.and_eq_true] at this
  unfold lowercaseAlone
  split
  · rename_i hascii
    have hall := List.all_eq_true.mp (smallLetterSweeps).lower c.toNat (List.mem_range.mpr hascii)
    have halpha : c.isAlpha = true := by rwa [isLetter, if_pos hascii] at h
    rw [Char.ofNat_toNat, halpha, Bool.not_true, Bool.false_or] at hall
    have hsmall : isLetter c.toLower = true := by
      rw [isLetter]
      split
      · exact hall
      · rename_i hlarge
        have hlow : ∀ n < 0x80, (Char.ofNat n).toLower.toNat < 0x80 := by decide
        exact absurd (forall_char_lt (fun c => c.toLower.toNat < 0x80) hlow hascii) hlarge
    exact isSmallForm_singleton
      ⟨isAlphabetic_of_isLetter hsmall, isWordCharacter_of_isLetter hsmall⟩
  · rename_i hascii
    split
    · exact ⟨⟨'i', rfl, (hcapital (by decide)).1⟩,
        List.forall_mem_cons.mpr ⟨(hcapital (by decide)).2,
          List.forall_mem_singleton.mpr (smallLetterSweeps).dot⟩⟩
    · split
      · rename_i run hrun
        refine isSmallForm_singleton (word_of_run (List.mem_of_find?_eq_some hrun)
          (by simpa using List.find?_some hrun) ?_)
        rw [isLetter, if_neg hascii, Bool.and_eq_true, Bool.not_eq_true', isRecent,
          if_neg hascii] at h
        rw [← SwitchPoints.contains_iff recentPoints_sound, h.2]
        exact Bool.false_ne_true
      · exact isSmallForm_singleton ⟨isAlphabetic_of_isLetter h, isWordCharacter_of_isLetter h⟩

/-- What is written in lowercase for a letter in a text. -/
theorem exists_smallForm (before : List Char) {c : Char} (hc : isLetter c = true)
    (rest : List Char) : ∃ small, IsSmallForm small ∧
      lowercaseAfter before (c :: rest) = small ++ lowercaseAfter (c :: before) rest := by
  have hsigma {d : Char} (hd : d ∈ ['ς', 'σ', 'i']) : IsSmallForm [d] := by
    have := List.all_eq_true.mp (smallLetterSweeps).capitals d hd
    exact isSmallForm_singleton (by rwa [Bool.and_eq_true] at this)
  rw [lowercaseAfter]
  split
  · split
    · exact ⟨['ς'], hsigma (by decide), rfl⟩
    · exact ⟨['σ'], hsigma (by decide), rfl⟩
  · exact ⟨lowercaseAlone c, isSmallForm_lowercaseAlone hc, rfl⟩

end Unicode

namespace Vocabulary

/-! ## The ends of a lettered phrase -/

/-- A phrase begins and ends with a letter, but for the blanks around it. -/
def IsLettered (phrase : String) : Prop :=
  (collapse phrase.toList).head?.any isLetter = true ∧
    (collapse phrase.toList).getLast?.any isLetter = true

instance (phrase : String) : Decidable (IsLettered phrase) := inferInstanceAs (Decidable (_ ∧ _))

/-- An entry begins with an alphabetic character, and words do not go on beyond its ends. -/
structure HasWordEnds (e : List Char) : Prop where
  head : ∃ c ∈ e.head?, isAlphabetic c = true ∧ isWordCharacter c = true
  last : ∃ c ∈ e.getLast?, isWordCharacter c = true

theorem hasWordEnds_entry {phrase : String} (h : IsLettered phrase) :
    HasWordEnds (entry phrase) := by
  obtain ⟨hhead, hlast⟩ := h
  unfold entry
  generalize collapse phrase.toList = text at hhead hlast
  constructor
  · cases text with
    | nil => cases hhead
    | cons c rest =>
      obtain ⟨small, hsmall, hsplit⟩ := exists_smallForm [] (c := c) hhead rest
      obtain ⟨d, hd, halphabetic⟩ := hsmall.head
      refine ⟨d, ?_, halphabetic, hsmall.word d (List.mem_of_head? hd)⟩
      rw [lowercase, hsplit, List.head?_append, Option.mem_def.mp hd]
      rfl
  · rcases List.eq_nil_or_concat text with rfl | ⟨u, c, rfl⟩
    · cases hlast
    · rw [List.concat_eq_append] at hlast ⊢
      obtain ⟨front, hfront⟩ := exists_lowercaseAfter_append [] u [c]
      rw [List.append_nil] at hfront
      obtain ⟨small, hsmall, hsplit⟩ :=
        exists_smallForm u.reverse (c := c) (by simpa using hlast) []
      rw [lowercaseAfter, List.append_nil] at hsplit
      obtain ⟨d, hd, -⟩ := hsmall.head
      have hne : small ≠ [] := by
        rintro rfl
        cases hd
      refine ⟨small.getLast hne, ?_, hsmall.word _ (List.getLast_mem hne)⟩
      rw [lowercase, hfront, hsplit, List.getLast?_append_of_ne_nil _ hne,
        List.getLast?_eq_some_getLast hne]
      rfl

theorem hasWordEnds_of_mem {phrases : List String} (h : ∀ p ∈ phrases, IsLettered p)
    {e : List Char} (he : e ∈ entries phrases) : HasWordEnds e := by
  obtain ⟨-, p, hp, rfl⟩ := mem_entries.mp he
  exact hasWordEnds_entry (h p hp)

section Ends

variable {e w a : List Char} {b : Option Char} (hends : HasWordEnds e) (h : Fits e b w a)
  (htidy : isTidyAfter false e = true)

include hends h htidy

/-- Where a lettered entry is found no word goes on in front of it. -/
theorem Fits.before : b.any isWordCharacter = false := by
  obtain ⟨c, hc, halphabetic, hword⟩ := hends.head
  obtain ⟨d, hd, hhead, -⟩ := exists_head_of_spells h.spells htidy
  obtain rfl : d = c := Option.some.inj (hd.symm.trans hc)
  have hboundary := h.opens (by rw [hd, Option.any_some, isAlphanumeric, halphabetic, Bool.true_or])
  rw [List.head?_append, hhead, isWordBoundary, Option.some_or, Option.any_some, hword] at hboundary
  simpa using hboundary

/-- Where a lettered entry ends in a letter or digit no word goes on behind it. -/
theorem Fits.sealed (hlast : (behind b w).any isAlphanumeric = true) :
    a.head?.any isWordCharacter = false := by
  obtain ⟨c, hc, hword⟩ := hends.last
  obtain ⟨d, hd, hwlast, -⟩ := exists_last_of_spells h.spells htidy
  obtain rfl : d = c := Option.some.inj (hd.symm.trans hc)
  have hne := ne_nil_of_spells h.spells htidy
  have hbehind : behind b w = some d := by
    rw [behind_of_ne_nil b hne, ← List.getLast?_eq_some_getLast hne, hwlast]
  rw [hbehind] at hlast
  have hboundary := h.closes (by rw [hd]; exact hlast)
  rw [hbehind, isWordBoundary, Option.any_some, hword] at hboundary
  simpa using hboundary

end Ends

end Vocabulary

namespace Pattern

/-- Where a text that the pattern reads ends in a letter or digit, no word goes on behind it. -/
def Seals (p : Pattern) : Prop :=
  ∀ b w a k, p.Reads b w a k → (behind b w).any isAlphanumeric = true →
    a.head?.any isWordCharacter = false

section Seals

variable {p q : Pattern}

theorem Seals.group (h : p.Seals) (i : Nat) : (group i p).Seals := by
  intro b w a k hr
  cases hr with
  | group hp => exact h _ _ _ _ hp

theorem Seals.seq (h : q.Seals) : (seq p q).Seals := by
  intro b w a k hr hlast
  cases hr with
  | seq _ hq =>
    rw [behind_append] at hlast
    exact h _ _ _ _ hq hlast

/-- A row of items ends as an item does, if it is not empty. -/
theorem Seals.seq_many (hp : p.Seals) (hq : q.Seals) : (Pattern.seq p (many q)).Seals := by
  have hrow {r : Pattern} {b : Option Char} {w a : List Char} {k : List (Nat × List Char)}
      (hr : r.Reads b w a k) (hmany : r = many q) :
      w = [] ∨ ((behind b w).any isAlphanumeric = true → a.head?.any isWordCharacter = false) := by
    induction hr with
    | done => exact Or.inl rfl
    | @more _ b u v a _ _ _ hu _ _ ih =>
      cases hmany
      refine Or.inr fun hlast => ?_
      rw [behind_append] at hlast
      rcases ih rfl with rfl | hsealed
      · exact hq _ _ _ _ hu hlast
      · exact hsealed hlast
    | _ => cases hmany
  intro b w a k hr hlast
  cases hr with
  | @seq _ _ _ u v _ _ _ hu hv =>
    rw [behind_append] at hlast
    rcases hrow hv rfl with rfl | hsealed
    · exact hp _ _ _ _ hu hlast
    · exact hsealed hlast

end Seals

end Pattern

namespace Vocabulary

/-- Where lettered phrases end in a letter or digit no word goes on behind them. -/
theorem seals_pattern {phrases : List String} (h : ∀ p ∈ phrases, IsLettered p) :
    (pattern phrases).Seals := by
  intro b w a k hr
  obtain ⟨-, e, he, hfits⟩ := reads_pattern.mp hr
  exact hfits.sealed (hasWordEnds_of_mem h he) (tidy_of_mem he)

/-! ## Vocabularies in a cut text -/

/-- What a vocabulary reads has a character that is no blank. -/
theorem needs_solid (phrases : List String) : (pattern phrases).Needs fun c => !isBlank c := by
  refine needs_of_mem fun b w a k hr => ?_
  obtain ⟨-, e, he, hfits⟩ := reads_pattern.mp hr
  obtain ⟨c, -, hhead, hc⟩ := exists_head_of_spells hfits.spells (tidy_of_mem he)
  exact ⟨c, List.mem_of_head? hhead, by rw [hc]; rfl⟩

section Cut

variable {b : Option Char} {r a : List Char}

/-- A row of the characters of an entry agrees with a cut if what stands behind it does. -/
theorem cutAt_own_row {e : List Char} {last : Pattern}
    (h : ∀ u v, r = u ++ v → Spells e u → last.CutAt (behind b u) v a) :
    (inOrder (e.map (fun c => if c = ' ' then Pattern.gap else just c) ++ [last])).CutAt b r a := by
  have hown (c : Char) {b : Option Char} {r : List Char} :
      (if c = ' ' then Pattern.gap else just c).CutAt b r a := by
    split
    · exact cutAt_gap
    · exact cutAt_char
  induction e generalizing b r with
  | nil => exact h [] r rfl .nil
  | cons c e ih =>
    have hrow :
        inOrder ((c :: e).map (fun c => if c = ' ' then Pattern.gap else just c) ++ [last]) =
        seq (if c = ' ' then Pattern.gap else just c)
          (inOrder (e.map (fun c => if c = ' ' then Pattern.gap else just c) ++ [last])) := by
      cases e <;> rfl
    rw [hrow]
    refine (hown c).seq fun u v k hr hread => ih fun u' v' hv hspells => ?_
    rw [← behind_append]
    refine h (u ++ u') v' (by rw [hr, hv, List.append_assoc]) ?_
    obtain ⟨-, hc⟩ := reads_own.mp hread
    by_cases hspace : c = ' '
    · rw [if_pos hspace] at hc
      rw [hspace]
      exact .gap hc.1 hc.2 hspells
    · rw [if_neg hspace] at hc
      rw [hc]
      exact .own hspace hspells

/-- An edge sees nothing of a cut that no word goes across. -/
theorem cutAt_edge {side : Option Char}
    (h : r = [] → side.any isAlphanumeric = true → a.head?.any isWordCharacter = false) :
    (edge side).CutAt b r a := by
  unfold edge
  split
  · rename_i hside
    have hsame : isWordBoundary b (r ++ a).head? = isWordBoundary b r.head? := by
      cases r with
      | nil => rw [isWordBoundary, List.nil_append, h rfl hside]; rfl
      | cons c r => rfl
    rw [CutAt]
    simp only [lengths, spots, hsame]
    split <;> rfl
  · exact cutAt_empty

variable (hcut : (behind b r).any isAlphanumeric = true → a.head?.any isWordCharacter = false)

include hcut

theorem cutAt_entryPattern {e : List Char} (htidy : isTidyAfter false e = true) (hne : r ≠ []) :
    (entryPattern e).CutAt b r a := by
  have hsplit : entryPattern e = seq (edge e.head?) (inOrder
      (e.map (fun c => if c = ' ' then Pattern.gap else just c) ++ [edge e.getLast?])) := by
    cases e <;> rfl
  rw [hsplit]
  refine (cutAt_edge fun hr => absurd hr hne).seq fun u v k hr hread => ?_
  obtain ⟨rfl, -, -⟩ := reads_edge.mp hread
  obtain rfl : r = v := hr
  refine cutAt_own_row fun u v hr hspells => cutAt_edge fun hv hside => hcut ?_
  -- at the end of the cut stands the last character of the entry
  obtain ⟨c, hc, hlast, -⟩ := exists_last_of_spells hspells htidy
  have hu := ne_nil_of_spells hspells htidy
  rw [hv, List.append_nil] at hr
  rw [hr, behind_of_ne_nil b hu, ← List.getLast?_eq_some_getLast hu, hlast, ← hc]
  exact hside

/-- A vocabulary sees nothing of a cut that no word goes across. -/
theorem cutAt_pattern (phrases : List String) : (pattern phrases).CutAt b r a := by
  cases hr : r with
  | nil => exact (needs_solid phrases).cutAt_nil
  | cons c rest =>
    rw [← hr]
    have hne : r ≠ [] := by
      rw [hr]
      exact List.cons_ne_nil c rest
    cases hentries : entries phrases with
    | nil =>
      unfold pattern pattern?
      rw [hentries]
      rfl
    | cons e es =>
      have hnil := nil_not_mem_entries phrases
      have hlengths (rest : List Char) : (pattern phrases).lengths b rest =
          (oneOf ((entries phrases).map entryPattern)).lengths b rest := by
        have hanyOf : pattern phrases = anyOf (entries phrases) := by
          unfold pattern pattern?
          rw [hentries]
          rfl
        rw [hanyOf, lengths, spots_anyOf hnil]
        rfl
      rw [CutAt, hlengths, hlengths]
      refine cutAt_oneOf fun p hp => ?_
      obtain ⟨f, hf, rfl⟩ := List.mem_map.mp hp
      exact cutAt_entryPattern hcut (tidy_of_mem hf) hne

end Cut

end Vocabulary

end CalcSpeech
