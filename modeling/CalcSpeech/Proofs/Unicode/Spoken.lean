import CalcSpeech.Proofs.Unicode.Settled
import CalcSpeech.Unicode.Lowercase

/-!
# The characters of spoken arithmetic

Numerals are written in the decimal digits of any script, words in small Latin letters with or
without accents. Both come through composing and lowercasing as they are.
-/

namespace CalcSpeech.Unicode

/-- A character that is its own small form and is left alone by composition. -/
structure Steady (c : Char) : Prop where
  settled : Settled c.toNat
  base : combiningClass c.toNat = 0
  small : lowercaseAlone c = [c]
  notSigma : c ≠ 'Σ'

/-- Lowercasing leaves a text of steady characters as it is, whatever stands before it. -/
theorem lowercaseAfter_of_steady {text : List Char} (h : ∀ c ∈ text, Steady c)
    (before : List Char) : lowercaseAfter before text = text := by
  induction text generalizing before with
  | nil => rfl
  | cons c rest ih =>
    have hc := h c (by simp)
    rw [lowercaseAfter, ih (fun d hd => h d (by simp [hd]))]
    simp [hc.notSigma, hc.small]

/-- A text of steady characters is composed and in lowercase. -/
theorem lowercase_composed_of_steady {text : List Char} (h : ∀ c ∈ text, Steady c) :
    lowercase (composed text) = text := by
  rw [composed_eq_self (fun c hc => (h c hc).settled) (fun c hc => (h c hc).base), lowercase,
    lowercaseAfter_of_steady h]

/-- Below the first letter with an accent only capitals have another small form. -/
theorem steady_of_lt {c : Char} (h : c.toNat < 0x80) (hsmall : c.toLower = c) : Steady c where
  settled := settled_of_lt (by omega)
  base := combiningClass_of_lt (by omega)
  small := by rw [lowercaseAlone, if_pos h, hsmall]
  notSigma := by
    intro hc
    rw [hc] at h
    exact absurd h (by decide)

/-- What no run of the table of small forms covers is its own small form. -/
theorem lowercaseAlone_of_not_inside {c : Char} (hascii : 0x80 ≤ c.toNat) (hdot : c ≠ 'İ')
    (h : ¬ Inside (caseRuns.map fun run => (run.first, run.last + 1)) c.toNat) :
    lowercaseAlone c = [c] := by
  have hfind : caseRuns.find? (·.covers c.toNat) = none := by
    rw [List.find?_eq_none]
    intro run hrun hcovers
    simp only [CaseRun.covers, Bool.and_eq_true, decide_eq_true_eq] at hcovers
    exact h ⟨(run.first, run.last + 1), List.mem_map.mpr ⟨run, hrun, rfl⟩, hcovers.1.1,
      Nat.lt_succ_of_le hcovers.1.2⟩
  rw [lowercaseAlone, if_neg (Nat.not_lt.mpr hascii), hfind]
  simp [hdot]

/-- Whether a character is a small Latin letter, with or without an accent. -/
def isSmallLatin (c : Char) : Bool :=
  (0x61 ≤ c.toNat && c.toNat ≤ 0x7A) || (0xDF ≤ c.toNat && c.toNat ≤ 0xFF && c.toNat != 0xF7)

/-- What sweeps over digits and small Latin letters find. -/
structure SpokenSweeps : Prop where
  digitClasses : apart 2000 digitSpans (combiningClasses.map fun e => (e.1, e.2.1 + 1)) = true
  digitRuns : apart 2000 digitSpans (caseRuns.map fun run => (run.first, run.last + 1)) = true
  digitFleeting : apart 2000 digitSpans (fleetingSymbols.map fun n => (n, n + 1)) = true
  digitCapitals : insideTest digitSpans 'İ'.toNat = false ∧ insideTest digitSpans 'Σ'.toNat = false
  latinRuns : apart 2000 [(0xDF, 0x100)] (caseRuns.map fun run => (run.first, run.last + 1)) = true
  latinSpans : (0xD8, 0xF7) ∈ letterPoints.spans ∧ (0xF8, 0x2C2) ∈ letterPoints.spans
  latinRecent : apart 100 [(0xDF, 0x100)] recentPoints.spans = true
  ascending : Ascending (caseRuns.map fun run => (run.first, run.last + 1)) ∧
    Ascending (fleetingSymbols.map fun n => (n, n + 1))
  latinKeys : (tableKeys.filter fun n => 0xDF ≤ n && n < 0x100).all (fun n =>
    match canonicalPairs.find? (·.1 == n) with
    | some (m, base, mark) => m == n && base < 0xC0 && 0x300 ≤ mark && mark < 0x340 &&
      compose? base mark == some n
    | none => false) = true

theorem spokenSweeps : SpokenSweeps := by
  constructor <;> decide +kernel

/-- Each of some code points in its own span. -/
theorem inside_of_mem {ns : List Nat} {n : Nat} (h : n ∈ ns) :
    Inside (ns.map fun n => (n, n + 1)) n :=
  ⟨(n, n + 1), List.mem_map.mpr ⟨n, h, rfl⟩, Nat.le_refl n, Nat.lt_succ_self n⟩

/-- Outside the capitals an ASCII character is its own small form. -/
theorem toLower_of_not_upper {c : Char} (h : ¬ (0x41 ≤ c.toNat ∧ c.toNat ≤ 0x5A)) :
    c.toLower = c := by
  have hupper : ¬ (c.val ≥ 'A'.val ∧ c.val ≤ 'Z'.val) := by
    intro hu
    exact h ⟨UInt32.le_iff_toNat_le.mp hu.1, UInt32.le_iff_toNat_le.mp hu.2⟩
  exact dif_neg hupper

/-- A digit is steady. -/
theorem steady_of_isDecimalDigit {c : Char} (h : isDecimalDigit c = true) : Steady c := by
  have hinside := inside_of_isDecimalDigit h
  rcases Nat.lt_or_ge c.toNat 0x80 with hascii | hascii
  · refine steady_of_lt hascii ?_
    rw [isDecimalDigit, if_pos hascii, Char.isDigit, Bool.and_eq_true, decide_eq_true_eq,
      decide_eq_true_eq] at h
    have hdigit : c.toNat ≤ 0x39 := UInt32.le_iff_toNat_le.mp h.2
    exact toLower_of_not_upper (by omega)
  · refine ⟨settled_of_class (isLetter_of_isDecimalDigit h) (isMark_of_isDecimalDigit h) ?_, ?_, ?_,
      ?_⟩
    · intro hmem
      exact not_inside_of_apart ascending_digitSpans (spokenSweeps).ascending.2
        (spokenSweeps).digitFleeting hinside (inside_of_mem hmem)
    · exact combiningClass_eq_zero (not_inside_of_apart ascending_digitSpans
        (symbolSweeps).ascending.2.2.1 (spokenSweeps).digitClasses hinside)
    · apply lowercaseAlone_of_not_inside hascii
      · intro hdot
        rw [hdot, ← insideTest_iff, (spokenSweeps).digitCapitals.1] at hinside
        exact Bool.false_ne_true hinside
      · exact not_inside_of_apart ascending_digitSpans (spokenSweeps).ascending.1
          (spokenSweeps).digitRuns hinside
    · intro hsigma
      rw [hsigma, ← insideTest_iff, (spokenSweeps).digitCapitals.2] at hinside
      exact Bool.false_ne_true hinside

/-- A small letter with an accent is taken apart into a letter and a mark, or not at all. -/
theorem settled_of_accented {n : Nat} (hlow : 0xDF ≤ n) (hhigh : n < 0x100) : Settled n := by
  by_cases hkey : n ∈ tableKeys
  · have hmem : n ∈ tableKeys.filter fun n => 0xDF ≤ n && n < 0x100 :=
      List.mem_filter.mpr ⟨hkey, by simp [hlow, hhigh]⟩
    have hpair := List.all_eq_true.mp (spokenSweeps).latinKeys n hmem
    cases hfind : canonicalPairs.find? (·.1 == n) with
    | none =>
      rw [hfind] at hpair
      cases hpair
    | some e =>
      obtain ⟨m, base, mark⟩ := e
      rw [hfind] at hpair
      simp only [Bool.and_eq_true, beq_iff_eq, decide_eq_true_eq] at hpair
      obtain ⟨⟨⟨⟨rfl, hbase⟩, hmarkLow⟩, hmarkHigh⟩, hjoin⟩ := hpair
      have hnokey : base ∉ tableKeys := fun hb => by
        have := le_of_tableKey hb
        omega
      refine .pair base mark ?_ hjoin (lone_of_lt (by omega)) (combiningClass_of_lt (by omega))
        (combiningClass_of_lt (by omega))
      exact decomposition_of_pair hfind (by omega) (by omega) hnokey
        (not_tableKey_of_mark (Or.inl ⟨hmarkLow, hmarkHigh⟩))
  · exact .whole (decomposition_of_not_key hkey (by omega)) (lone_of_lt (by omega))

/-- A small Latin letter is steady. -/
theorem steady_of_isSmallLatin {c : Char} (h : isSmallLatin c = true) : Steady c := by
  simp only [isSmallLatin, Bool.or_eq_true, Bool.and_eq_true, decide_eq_true_eq, bne_iff_ne] at h
  rcases h with ⟨hlow, hhigh⟩ | ⟨⟨hlow, hhigh⟩, -⟩
  · exact steady_of_lt (by omega) (toLower_of_not_upper (by omega))
  · refine ⟨settled_of_accented hlow (by omega), combiningClass_of_lt (by omega), ?_, ?_⟩
    · apply lowercaseAlone_of_not_inside (by omega)
      · intro hdot
        rw [hdot] at hhigh
        exact absurd hhigh (by decide)
      · have hin : Inside [(0xDF, 0x100)] c.toNat :=
          ⟨(0xDF, 0x100), by simp, hlow, Nat.lt_succ_of_le hhigh⟩
        exact not_inside_of_apart (by decide) (spokenSweeps).ascending.1 (spokenSweeps).latinRuns hin
    · intro hsigma
      rw [hsigma] at hhigh
      exact absurd hhigh (by decide)

/-- A small Latin letter is a letter. -/
theorem isLetter_of_isSmallLatin {c : Char} (h : isSmallLatin c = true) : isLetter c = true := by
  simp only [isSmallLatin, Bool.or_eq_true, Bool.and_eq_true, decide_eq_true_eq, bne_iff_ne] at h
  rcases h with ⟨hlow, hhigh⟩ | ⟨⟨hlow, hhigh⟩, hdivision⟩
  · have hlower : c.isLower = true := by
      show (decide ('a'.val ≤ c.val) && decide (c.val ≤ 'z'.val)) = true
      rw [Bool.and_eq_true, decide_eq_true_eq, decide_eq_true_eq]
      exact ⟨UInt32.le_iff_toNat_le.mpr hlow, UInt32.le_iff_toNat_le.mpr hhigh⟩
    have halpha : c.isAlpha = true := by
      show (c.isUpper || c.isLower) = true
      rw [hlower, Bool.or_true]
    rw [isLetter, if_pos (by omega), halpha]
  · have hin : Inside letterPoints.spans c.toNat := by
      by_cases hside : c.toNat < 0xF7
      · exact ⟨(0xD8, 0xF7), (spokenSweeps).latinSpans.1, by show 0xD8 ≤ _; omega, hside⟩
      · exact ⟨(0xF8, 0x2C2), (spokenSweeps).latinSpans.2, by show 0xF8 ≤ _; omega,
          by show _ < 0x2C2; omega⟩
    refine isLetter_of_inside (by omega) hin (isRecent_of_not_inside ?_)
    have hlatin : Inside [(0xDF, 0x100)] c.toNat :=
      ⟨(0xDF, 0x100), by simp, hlow, Nat.lt_succ_of_le hhigh⟩
    exact not_inside_of_apart (by decide) (joinerSweeps).ascending.2.2 (spokenSweeps).latinRecent hlatin

theorem isDecimalDigit_of_isSmallLatin {c : Char} (h : isSmallLatin c = true) :
    isDecimalDigit c = false :=
  isDecimalDigit_of_isLetter (isLetter_of_isSmallLatin h)

end CalcSpeech.Unicode
