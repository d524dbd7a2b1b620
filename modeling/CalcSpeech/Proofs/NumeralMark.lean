import CalcSpeech.NumeralMark
import CalcSpeech.Proofs.Vocabulary.Reading

/-!
# Marks in written numerals

Without commas and without a spoken decimal point only a period with blanks around it is changed
(`rewrite_of_no_comma`), and where no period has a blank at its side nothing is
(`spacedPoint_eq_self`).
-/

namespace CalcSpeech.NumeralMark

open Unicode Pattern

section Marks

variable {pack : LanguagePack} {text : List Char}

/-- The patterns for grouped and for marked numerals need a comma. -/
theorem needs_comma : periodGroups.Needs (· == ',') ∧
    commaGroups.Needs (· == ',') ∧ decimalComma.Needs (· == ',') := by
  have hcomma : (just ',').Needs (· == ',') := needs_char
  refine ⟨needsAt_inOrder (by simp) hcomma, ?_, needsAt_inOrder (by simp) hcomma⟩
  refine needsAt_inOrder (p := atLeastOne (inOrder [just ',', times 3 digit])) (by simp) ?_
  exact NeedsAt.seq_left (needsAt_inOrder (by simp) hcomma)

/-- What the decimal point of a language needs. -/
theorem needsAt_spokenPoint {Q : Option Char → List Char → Prop}
    (hwords : (Vocabulary.pattern (pack.words .decimalWords)).NeedsAt Q)
    (hcomma : pack.decimalMark = .comma → (just ',').NeedsAt Q) (q : Pattern)
    (hq : spokenPoint? pack = some q) : q.NeedsAt Q := by
  unfold spokenPoint? at hq
  simp only at hq
  split at hq
  · cases hq
  · obtain rfl := Option.some.inj hq
    refine needsAt_inOrder (List.mem_cons_of_mem _ List.mem_cons_self) (needsAt_oneOf ?_)
    intro p hp
    rcases List.mem_append.mp hp with hspoken | hwritten
    · obtain ⟨word, hword, rfl⟩ := Option.map_eq_some_iff.mp (Option.mem_toList.mp hspoken)
      rw [← Vocabulary.eq_pattern_of_pattern? hword] at hwords
      exact needsAt_inOrder (by simp) hwords
    · cases hmark : pack.decimalMark with
      | period => simp [hmark] at hwritten
      | comma =>
        obtain rfl : p = just ',' := by simpa [hmark] using hwritten
        exact hcomma hmark

/-- A decimal point is written between characters of the text. -/
theorem forall_mem_pointed {p : Pattern} {P : Char → Prop} (hpoint : P '.')
    (htext : ∀ c ∈ text, P c) : ∀ c ∈ p.rewrite pointed text, P c := by
  apply forall_mem_rewriteAfter _ htext
  intro b m a hread hm c hc
  rcases List.mem_append.mp hc with hc | hc
  · exact hm c (mem_of_mem_group hread hc)
  · rcases List.mem_cons.mp hc with rfl | hc
    · exact hpoint
    · exact hm c (mem_of_mem_group hread hc)

theorem plainSpace_of_solid {c : Char} (h : isBlank c = false) : plainSpace c = c := by
  rw [plainSpace, if_neg]
  have hspaces : ∀ d ∈ ['\u00A0', '\u202F', '\u2007', '\u2009'], isBlank d = true := by decide
  intro hc
  rw [hspaces c (by simpa using hc)] at h
  exact Bool.noConfusion h

theorem plainSpaces_eq_self (h : ∀ c ∈ text, plainSpace c = c) :
    text.map plainSpace = text := by
  rw [List.map_congr_left h, List.map_id']

/-- A period between two digits, with blanks around it. -/
theorem reads_spacedPoint {b : Option Char} {w a : List Char} {k : List (Nat × List Char)} :
    spacedPoint.Reads b w a k ↔ ∃ d g h e, w = d :: (g ++ '.' :: (h ++ [e])) ∧
      isDecimalDigit d = true ∧ (∀ c ∈ g, isBlank c = true) ∧ (∀ c ∈ h, isBlank c = true) ∧
      isDecimalDigit e = true ∧ k = [(2, [e]), (1, [d])] := by
  have hdigit {i : Nat} {b : Option Char} {w a : List Char} {k : List (Nat × List Char)} :
      (group i digit).Reads b w a k ↔ ∃ d, w = [d] ∧ isDecimalDigit d = true ∧ k = [(i, [d])] := by
    constructor
    · intro h
      cases h with
      | group h =>
        cases h with
        | char hd => exact ⟨_, rfl, hd, rfl⟩
    · intro ⟨d, hw, hd, hk⟩
      rw [hw, hk]
      exact .group (.char hd)
  unfold spacedPoint
  constructor
  · intro hrow
    obtain ⟨u1, v1, k1, l1, rfl, rfl, hdigit1, hrow1⟩ := reads_inOrder_cons.mp hrow
    obtain ⟨g, v2, k2, l2, rfl, rfl, hloose2, hrow2⟩ := reads_inOrder_cons.mp hrow1
    obtain ⟨u3, v3, k3, l3, rfl, rfl, hpoint3, hrow3⟩ := reads_inOrder_cons.mp hrow2
    obtain ⟨h, v4, k4, l4, rfl, rfl, hloose4, hrow4⟩ := reads_inOrder_cons.mp hrow3
    obtain ⟨d, rfl, hd, rfl⟩ := hdigit.mp hdigit1
    obtain ⟨hg, rfl⟩ := reads_many_char.mp hloose2
    obtain ⟨rfl, rfl⟩ := reads_just.mp hpoint3
    obtain ⟨hh, rfl⟩ := reads_many_char.mp hloose4
    obtain ⟨e, rfl, he, rfl⟩ := hdigit.mp hrow4
    exact ⟨d, g, h, e, rfl, hd, hg, hh, he, rfl⟩
  · intro ⟨d, g, h, e, hw, hd, hg, hh, he, hk⟩
    rw [hw, hk]
    have hlast {b : Option Char} : (inOrder [group 2 digit]).Reads b [e] a [(2, [e])] :=
      hdigit.mpr ⟨e, rfl, he, rfl⟩
    exact .seq (u := [d]) (hdigit.mpr ⟨d, rfl, hd, rfl⟩)
      (.seq (u := g) (reads_many_char.mpr ⟨hg, rfl⟩)
        (.seq (u := ['.']) (reads_just.mpr ⟨rfl, rfl⟩)
          (.seq (u := h) (reads_many_char.mpr ⟨hh, rfl⟩) hlast)))

/-- A period with a blank at its side stands here. -/
def LoosePointAt (before : Option Char) (rest : List Char) : Prop :=
  ∃ r, rest = '.' :: r ∧ (before.any isBlank = true ∨ r.head?.any isBlank = true)

/-- Where no period has a blank at its side none is moved. -/
theorem spacedPoint_eq_self (h : Nowhere LoosePointAt none text []) :
    spacedPoint.rewrite pointed text = text := by
  apply rewriteAfter_eq_self
  intro v w a k htext _ hread
  obtain ⟨d, g, i, e, rfl, -, hg, hi, -, rfl⟩ := reads_spacedPoint.mp hread
  have hplace := h (v ++ d :: g) '.' (i ++ [e] ++ a) (by rw [htext]; simp)
  have hbefore : g = [] := by
    cases g with
    | nil => rfl
    | cons c g =>
      refine absurd ⟨_, rfl, Or.inl ?_⟩ hplace
      rw [behind_append, behind_cons]
      exact any_behind_of_ne_nil _ (List.cons_ne_nil c g) hg
  have hbehind : i = [] := by
    cases i with
    | nil => rfl
    | cons c i => exact absurd ⟨_, rfl, Or.inr (by simpa using hi c (by simp))⟩ hplace
  rw [hbefore, hbehind]
  rfl

/-- Without commas only points that are spoken or have blanks around them are left to read. -/
theorem rewrite_of_no_comma {mark : DecimalMark} {point : Option Pattern}
    (hcomma : ∀ c ∈ text, c ≠ ',') (hplain : ∀ c ∈ text, plainSpace c = c)
    (hpoint : ∀ p, point = some p → p.rewrite pointed text = text) :
    rewrite mark point text = spacedPoint.rewrite pointed text := by
  obtain ⟨hperiods, hcommas, hdecimal⟩ := needs_comma
  have hfree {u : List Char} (hu : ∀ c ∈ u, c ≠ ',') : ∀ c ∈ u, (c == ',') = false :=
    fun c hc => beq_eq_false_iff_ne.mpr (hu c hc)
  have hspoken : rewriteSpoken mark point text = text := by
    unfold rewriteSpoken
    cases hp : point with
    | none => rfl
    | some point =>
      cases mark with
      | period => exact hpoint point hp
      | comma =>
        show point.rewrite _ (periodGroups.rewrite _ text) = text
        rw [rewrite_eq_rewriteAfter periodGroups,
          rewriteAfter_of_needs hperiods _ none (hfree hcomma), hpoint point hp]
  have hspaced : ∀ c ∈ spacedPoint.rewrite pointed text, c ≠ ',' :=
    forall_mem_pointed (by decide) hcomma
  unfold rewrite
  rw [plainSpaces_eq_self hplain, hspoken]
  show decimalComma.rewrite pointed (commaGroups.rewrite (without ',') _) = _
  rw [rewrite_eq_rewriteAfter commaGroups,
    rewriteAfter_of_needs hcommas _ none (hfree hspaced), rewrite_eq_rewriteAfter,
    rewriteAfter_of_needs hdecimal _ none (hfree hspaced)]

end Marks

end CalcSpeech.NumeralMark
