import CalcSpeech.Language.Pack
import CalcSpeech.Proofs.Text.Lowercase

/-!
# Language codes in their normal form

A code is brought to its normal form by each part that is handed it, so that it is trimmed and made
lowercase again and again on its way. That this changes nothing (`normalize_normalize`) rests on the
case table: nothing that it leads to is a capital.
-/

namespace CalcSpeech

namespace Unicode

open Text

/-! ## Small forms -/

/-- How far the small forms of a run lie above its capitals. -/
def CaseRun.up (run : CaseRun) : Nat := run.shift.toNat

/-- How far the small forms of a run lie below its capitals. -/
def CaseRun.down (run : CaseRun) : Nat := (-run.shift).toNat

/-- Whether no small form of one run is a capital of the other: the two do not overlap, or they take
turns. -/
def CaseRun.avoids (run other : CaseRun) : Bool :=
  Nat.blt (other.last + run.down) (run.first + run.up) ||
    Nat.blt (run.last + run.up) (other.first + run.down) ||
      (Nat.beq other.step 2 && (Nat.beq run.step 2 || Nat.beq run.first run.last) &&
        Nat.beq ((run.first + run.up + other.first + run.down) % 2) 1)

/-- The capitals of ASCII and the dotted capital, which the case table leaves out. -/
def otherCapitals : List CaseRun := [⟨0x41, 0x5A, 1, 32⟩, ⟨0x130, 0x130, 1, 0⟩]

/-- No small form in the case table is a capital. -/
theorem caseRuns_avoid :
    caseRuns.all (fun run => (otherCapitals ++ caseRuns).all run.avoids) = true := by
  decide +kernel

/-- A small form of a run that avoids another is not covered by the other. -/
theorem CaseRun.not_covers {run other : CaseRun} (h : run.avoids other = true) {n : Nat}
    (hn : run.covers n = true) (hpositive : 0 < (n + run.shift : Int)) :
    other.covers (n + run.shift).toNat = false := by
  rw [Bool.eq_false_iff]
  intro hcovers
  simp only [covers, Bool.and_eq_true, decide_eq_true_eq, beq_iff_eq] at hn hcovers
  simp only [avoids, Bool.or_eq_true, Bool.and_eq_true, Nat.blt_eq, Nat.beq_eq, up, down] at h
  obtain ⟨⟨hfirst, hlast⟩, hstep⟩ := hn
  obtain ⟨⟨hfirst', hlast'⟩, hstep'⟩ := hcovers
  rcases h with (h | h) | ⟨⟨htwo, hrow⟩, hodd⟩
  · omega
  · omega
  · rw [htwo] at hstep'
    rcases hrow with hrow | hrow
    · rw [hrow] at hstep
      omega
    · omega

/-- A character that is its own small form wherever it stands. -/
def IsSmall (c : Char) : Prop := lowercaseAlone c = [c] ∧ c ≠ 'Σ'

/-- In ASCII what is made small stays as it is. -/
theorem isSmall_of_lt {c : Char} (hascii : c.toNat < 0x80) (hlower : c.toLower = c) :
    IsSmall c := by
  refine ⟨by rw [lowercaseAlone, if_pos hascii, hlower], ?_⟩
  rintro rfl
  exact absurd hascii (by decide)

/-- What no row of capitals covers is its own small form. -/
theorem isSmall_of_not_covers {c : Char}
    (h : ∀ run ∈ otherCapitals ++ caseRuns, run.covers c.toNat = false) : IsSmall c := by
  by_cases hascii : c.toNat < 0x80
  · have hcapital := h ⟨0x41, 0x5A, 1, 32⟩ (by simp [otherCapitals])
    refine isSmall_of_lt hascii (toLower_of_not_upper ?_)
    rintro ⟨hlow, hhigh⟩
    rw [CaseRun.covers, decide_eq_true hlow, decide_eq_true hhigh, Nat.mod_one] at hcapital
    exact Bool.noConfusion hcapital
  · have hrun {run : CaseRun} (hrun : run ∈ caseRuns) : ¬ run.covers c.toNat = true := by
      rw [h run (List.mem_append_right _ hrun)]
      exact Bool.false_ne_true
    have hdot : ¬ (c == 'İ') = true := by
      rw [beq_iff_eq]
      rintro rfl
      have hnone := h ⟨0x130, 0x130, 1, 0⟩ (by simp [otherCapitals])
      exact absurd hnone (by decide)
    have hfind : caseRuns.find? (·.covers c.toNat) = none :=
      List.find?_eq_none.mpr fun _ => hrun
    refine ⟨by rw [lowercaseAlone, if_neg hascii, if_neg hdot, hfind], ?_⟩
    rintro rfl
    have hsigma : caseRuns.any (·.covers 'Σ'.toNat) = true := by decide
    obtain ⟨run, hmem, hcovers⟩ := List.any_eq_true.mp hsigma
    exact hrun hmem hcovers

/-- The rows beside the case table cover the capitals of ASCII and the dotted capital. -/
theorem covers_otherCapitals {run : CaseRun} (hrun : run ∈ otherCapitals) {n : Nat}
    (hn : run.covers n = true) : (0x41 ≤ n ∧ n ≤ 0x5A) ∨ n = 0x130 := by
  simp only [otherCapitals, List.mem_cons, List.not_mem_nil, or_false] at hrun
  rcases hrun with rfl | rfl <;>
    simp only [CaseRun.covers, Bool.and_eq_true, decide_eq_true_eq] at hn <;> omega

/-- The rows of the case table lead from characters beyond ASCII to others. -/
theorem caseRuns_lead :
    caseRuns.all (fun run => Nat.ble 0x80 run.first && run.shift != 0) = true := by
  decide +kernel

/-- A row of the case table leads from no character to itself. -/
theorem ne_of_run {run : CaseRun} (hrun : run ∈ caseRuns) {c : Char}
    (hcovers : run.covers c.toNat = true) : Char.ofNat (c.toNat + run.shift).toNat ≠ c := by
  have hlead := List.all_eq_true.mp caseRuns_lead run hrun
  rw [Bool.and_eq_true, Nat.ble_eq, bne_iff_ne] at hlead
  simp only [CaseRun.covers, Bool.and_eq_true, decide_eq_true_eq] at hcovers
  intro hsame
  rcases toNat_ofNat_cases (c.toNat + run.shift).toNat with hpoint | hzero
  · rw [hsame] at hpoint
    omega
  · rw [hsame] at hzero
    omega

/-- No row of capitals covers a character that is its own small form. -/
theorem not_covers_of_isSmall {c : Char} (h : IsSmall c) {run : CaseRun}
    (hrun : run ∈ otherCapitals ++ caseRuns) : run.covers c.toNat = false := by
  obtain ⟨hsmall, -⟩ := h
  rw [Bool.eq_false_iff]
  intro hcovers
  rcases List.mem_append.mp hrun with hother | hrun
  · rcases covers_otherCapitals hother hcovers with hcapital | hdot
    · have hall : ∀ n < 0x80, 0x41 ≤ n ∧ n ≤ 0x5A →
          lowercaseAlone (Char.ofNat n) ≠ [Char.ofNat n] := by decide
      have hchanges := hall c.toNat (by omega) hcapital
      rw [Char.ofNat_toNat] at hchanges
      exact hchanges hsmall
    · obtain rfl : c = 'İ' := Char.toNat_inj.mp hdot
      exact absurd hsmall (by decide)
  · have hlead := List.all_eq_true.mp caseRuns_lead run hrun
    rw [Bool.and_eq_true, Nat.ble_eq] at hlead
    have hfirst := hcovers
    simp only [CaseRun.covers, Bool.and_eq_true, decide_eq_true_eq] at hfirst
    rw [lowercaseAlone, if_neg (by omega)] at hsmall
    split at hsmall
    · exact absurd (congrArg List.length hsmall) (by simp)
    · split at hsmall
      · rename_i first hfind
        exact ne_of_run (List.mem_of_find?_eq_some hfind) (by simpa using List.find?_some hfind)
          (List.cons.inj hsmall).1
      · rename_i hnone
        exact absurd hcovers (by simpa using List.find?_eq_none.mp hnone run hrun)

/-- The small form that a row of capitals leads to. -/
theorem isSmall_of_run {run : CaseRun} (hrun : run ∈ caseRuns) {n : Nat}
    (hcovers : run.covers n = true) : IsSmall (Char.ofNat (n + run.shift).toNat) := by
  have hnull : IsSmall (Char.ofNat 0) := isSmall_of_lt (by decide) (by decide)
  by_cases hpositive : 0 < (n + run.shift : Int)
  · rcases toNat_ofNat_cases (n + run.shift).toNat with hpoint | hzero
    · apply isSmall_of_not_covers
      intro other hother
      rw [hpoint]
      have havoid := List.all_eq_true.mp (List.all_eq_true.mp caseRuns_avoid run hrun) other hother
      exact CaseRun.not_covers havoid hcovers hpositive
    · rwa [show Char.ofNat (n + run.shift).toNat = Char.ofNat 0 from Char.toNat_inj.mp hzero]
  · have hzero : (n + run.shift).toNat = 0 := by omega
    rwa [hzero]

/-- The small forms of a character are their own small forms. -/
theorem isSmall_lowercaseAlone {c : Char} : ∀ d ∈ lowercaseAlone c, IsSmall d := by
  unfold lowercaseAlone
  split
  · rename_i hascii
    have hall : ∀ n < 0x80, (Char.ofNat n).toLower.toNat < 0x80 ∧
        (Char.ofNat n).toLower.toLower = (Char.ofNat n).toLower := by decide
    obtain ⟨hlow, hlower⟩ := forall_char_lt
      (fun c => c.toLower.toNat < 0x80 ∧ c.toLower.toLower = c.toLower) hall hascii
    exact List.forall_mem_singleton.mpr (isSmall_of_lt hlow hlower)
  · rename_i hascii
    split
    · refine List.forall_mem_cons.mpr ⟨isSmall_of_lt (by decide) (by decide), ?_⟩
      exact List.forall_mem_singleton.mpr ⟨by decide, by decide⟩
    · rename_i hdot
      split
      · rename_i run hfind
        exact List.forall_mem_singleton.mpr
          (isSmall_of_run (List.mem_of_find?_eq_some hfind) (by simpa using List.find?_some hfind))
      · rename_i hfind
        refine List.forall_mem_singleton.mpr (isSmall_of_not_covers fun run hrun => ?_)
        rcases List.mem_append.mp hrun with hother | hrun
        · rw [Bool.eq_false_iff]
          intro hcovers
          rcases covers_otherCapitals hother hcovers with hcapital | hdotted
          · omega
          · exact hdot (beq_iff_eq.mpr (Char.toNat_inj.mp hdotted))
        · simpa using List.find?_eq_none.mp hfind run hrun

/-- What is written in lowercase are small forms. -/
theorem isSmall_lowercase {text : List Char} (before : List Char) :
    ∀ d ∈ lowercaseAfter before text, IsSmall d := by
  induction text generalizing before with
  | nil =>
    intro d hd
    cases hd
  | cons c rest ih =>
    rw [lowercaseAfter]
    refine List.forall_mem_append.mpr ⟨?_, ih _⟩
    split
    · split
      · exact List.forall_mem_singleton.mpr ⟨by decide, by decide⟩
      · exact List.forall_mem_singleton.mpr ⟨by decide, by decide⟩
    · exact isSmall_lowercaseAlone

/-- Small forms stay as they are, whatever stands before them. -/
theorem lowercaseAfter_of_small {text : List Char} (h : ∀ c ∈ text, IsSmall c)
    (before : List Char) : lowercaseAfter before text = text := by
  induction text generalizing before with
  | nil => rfl
  | cons c rest ih =>
    obtain ⟨hc, hrest⟩ := List.forall_mem_cons.mp h
    rw [lowercaseAfter, ih hrest]
    simp [hc.1, hc.2]

/-- A text in lowercase is in lowercase. -/
theorem lowercase_lowercase (text : List Char) : lowercase (lowercase text) = lowercase text :=
  lowercaseAfter_of_small (isSmall_lowercase []) []

/-! ## Ends without blanks -/

/-- A text without blanks at its ends has none there in lowercase. -/
theorem trim_lowercase {text : List Char} (hhead : text.head?.any isBlank = false)
    (hlast : text.getLast?.any isBlank = false) : trim (lowercase text) = lowercase text := by
  by_cases hnil : text = []
  · rw [hnil]
    rfl
  have hside {side : Option Char} {small : List Char} (hsmall : ∀ d ∈ small, isBlank d = false)
      (hmem : ∀ d, side = some d → d ∈ small) : side.any isBlank = false := by
    cases side with
    | none => rfl
    | some d => exact hsmall d (hmem d rfl)
  apply trim_of_ends
  · obtain ⟨c, rest, rfl⟩ := List.exists_cons_of_ne_nil hnil
    obtain ⟨small, hsplit, hsome, hsmall⟩ := exists_lowercaseAfter_cons [] (by exact hhead) rest
    rw [lowercase, hsplit, List.head?_append_of_ne_nil _ hsome]
    exact hside hsmall fun d hd => List.mem_of_head? hd
  · obtain ⟨u, c, rfl⟩ := (List.eq_nil_or_concat text).resolve_left hnil
    rw [List.concat_eq_append, List.getLast?_append, List.getLast?_singleton] at hlast
    obtain ⟨front, hfront⟩ := exists_lowercaseAfter_append [] u [c]
    rw [List.append_nil] at hfront
    obtain ⟨small, hsplit, hsome, hsmall⟩ :=
      exists_lowercaseAfter_cons u.reverse (c := c) (by simpa using hlast) []
    rw [lowercaseAfter, List.append_nil] at hsplit
    rw [List.concat_eq_append, lowercase, hfront, hsplit, List.getLast?_append_of_ne_nil _ hsome]
    exact hside hsmall fun d hd => List.mem_of_getLast? hd

end Unicode

/-- The normal form of a code is in its normal form. -/
theorem LanguageCode.normalize_normalize (code : String) :
    LanguageCode.normalize (LanguageCode.normalize code) = LanguageCode.normalize code := by
  obtain ⟨hhead, hlast⟩ := Text.ends_trim code.toList
  unfold LanguageCode.normalize Unicode.lowercaseString Text.trimString
  rw [String.toList_ofList, String.toList_ofList, String.toList_ofList,
    Unicode.trim_lowercase hhead hlast, Unicode.lowercase_lowercase]

end CalcSpeech
