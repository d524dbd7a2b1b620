import CalcSpeech.Proofs.Unicode.Survival

/-!
# Preparing what has been prepared

A prepared transcript is small, has no dash but the hyphen, and no hyphen that joins two words
(`isPrepared_prepare`). Preparing it once more can only compose it and split at the hyphens that
then join words (`IsPrepared.prepare_eq`), so it stays as it is exactly when it is composed
(`prepare_prepare_iff`). A transcript is composed before it is made small, and that is not always
enough: some letters have a composed form only when they are small.
-/

namespace CalcSpeech

namespace Transcript

open Unicode

/-! ## Characters of a prepared text -/

theorem plainDash_eq_self_iff {c : Char} :
    plainDash c = c ↔ c ≠ '\u2013' ∧ c ≠ '\u2014' ∧ c ≠ '\u2212' := by
  unfold plainDash
  split
  · rename_i hdash
    constructor
    · rintro rfl
      exact absurd hdash (by decide)
    · rintro ⟨hen, hem, hminus⟩
      rcases hdash with h | h | h
      · exact absurd h hen
      · exact absurd h hem
      · exact absurd h hminus
  · rename_i hdash
    rw [not_or, not_or] at hdash
    exact ⟨fun _ => hdash, fun _ => rfl⟩

theorem plainDash_plainDash (c : Char) : plainDash (plainDash c) = plainDash c := by
  by_cases h : plainDash c = c
  · rw [h, h]
  · have hhyphen : plainDash c = '-' := by
      unfold plainDash at h ⊢
      split at h
      · rename_i hdash
        rw [if_pos hdash]
      · exact absurd rfl h
    rw [hhyphen]
    rfl

/-- The characters that are neither made small nor made a hyphen. -/
theorem unguarded_iff {c : Char} : Unguarded c ↔ IsSmall c ∧ plainDash c = c := by
  have hmem : c.toNat ∈ guardedPoints ↔ c ∈ [' ', '\u2013', '\u2014', '\u2212'] ∨
      ∃ run ∈ otherCapitals ++ caseRuns, run.covers c.toNat = true := by
    rw [guardedPoints, List.mem_append, List.mem_flatMap]
    simp only [CaseRun.mem_points]
    refine or_congr ?_ Iff.rfl
    simp only [List.mem_cons, List.not_mem_nil, or_false, ← Char.toNat_inj]
    exact Iff.rfl
  constructor
  · intro h
    by_cases hspace : c = ' '
    · rw [hspace]
      exact ⟨isSmall_of_lt (by decide) (by decide), by decide⟩
    · have hfree := h hspace
      rw [hmem, not_or, not_exists] at hfree
      refine ⟨isSmall_of_not_covers fun run hrun => ?_, plainDash_eq_self_iff.mpr ?_⟩
      · exact Bool.eq_false_iff.mpr fun hcovers => hfree.2 run ⟨hrun, hcovers⟩
      · simpa [hspace] using hfree.1
  · rintro ⟨hsmall, hdash⟩ hspace hc
    rcases hmem.mp hc with hsign | ⟨run, hrun, hcovers⟩
    · have hdash := plainDash_eq_self_iff.mp hdash
      simp [hspace, hdash] at hsign
    · rw [not_covers_of_isSmall hsmall hrun] at hcovers
      exact Bool.false_ne_true hcovers

/-! ## Hyphens that join words -/

/-- At a place stands a hyphen between two alphabetic characters. -/
def JoinsWords (before : Option Char) (text : List Char) : Prop :=
  ∃ rest, text = '-' :: rest ∧ before.any isAlphabetic = true ∧
    rest.head?.any isAlphabetic = true

theorem joinsWords_cons {before : Option Char} {c : Char} {rest : List Char} :
    JoinsWords before (c :: rest) ↔
      c = '-' ∧ before.any isAlphabetic ∧ rest.head?.any isAlphabetic := by
  constructor
  · rintro ⟨_, heq, hbefore, hahead⟩
    obtain ⟨rfl, rfl⟩ := List.cons.inj heq
    exact ⟨rfl, hbefore, hahead⟩
  · rintro ⟨rfl, hbefore, hahead⟩
    exact ⟨rest, rfl, hbefore, hahead⟩

theorem splitAtHyphens_cons_of_joins {before : Option Char} {c : Char} {rest : List Char}
    (h : JoinsWords before (c :: rest)) :
    splitAtHyphens before (c :: rest) = ' ' :: splitAtHyphens (some c) rest := by
  rw [splitAtHyphens, if_pos (joinsWords_cons.mp h)]

theorem splitAtHyphens_cons_of_not_joins {before : Option Char} {c : Char} {rest : List Char}
    (h : ¬ JoinsWords before (c :: rest)) :
    splitAtHyphens before (c :: rest) = c :: splitAtHyphens (some c) rest := by
  rw [splitAtHyphens, if_neg fun hjoins => h (joinsWords_cons.mpr hjoins)]

/-- A text in which no hyphen joins words is not split. -/
theorem splitAtHyphens_of_nowhere {before : Option Char} {text : List Char}
    (h : Nowhere JoinsWords before text []) : splitAtHyphens before text = text := by
  induction text generalizing before with
  | nil => rfl
  | cons c rest ih =>
    obtain ⟨hc, hrest⟩ := nowhere_cons.mp h
    rw [List.append_nil] at hc
    rw [splitAtHyphens_cons_of_not_joins hc, ih hrest]

/-- Neither a hyphen nor the space for it is alphabetic, so splitting makes no difference to where
alphabetic characters stand. -/
theorem head_splitAtHyphens (before : Option Char) (text : List Char) :
    (splitAtHyphens before text).head?.any isAlphabetic = text.head?.any isAlphabetic := by
  cases text with
  | nil => rfl
  | cons c rest =>
    by_cases hjoins : JoinsWords before (c :: rest)
    · obtain ⟨rfl, -⟩ := joinsWords_cons.mp hjoins
      rw [splitAtHyphens_cons_of_joins hjoins]
      show isAlphabetic ' ' = isAlphabetic '-'
      decide
    · rw [splitAtHyphens_cons_of_not_joins hjoins]
      rfl

/-- In a text that has been split no hyphen joins words. -/
theorem nowhere_splitAtHyphens {before split : Option Char}
    (hbefore : split.any isAlphabetic = before.any isAlphabetic) (text : List Char) :
    Nowhere JoinsWords split (splitAtHyphens before text) [] := by
  induction text generalizing before split with
  | nil => exact nowhere_nil _ _ _
  | cons c rest ih =>
    by_cases hjoins : JoinsWords before (c :: rest)
    · obtain ⟨rfl, -⟩ := joinsWords_cons.mp hjoins
      rw [splitAtHyphens_cons_of_joins hjoins, nowhere_cons]
      refine ⟨fun hspace => ?_, ih ?_⟩
      · exact absurd (joinsWords_cons.mp hspace).1 (by decide)
      · show isAlphabetic ' ' = isAlphabetic '-'
        decide
    · rw [splitAtHyphens_cons_of_not_joins hjoins, nowhere_cons, List.append_nil, joinsWords_cons,
        hbefore, head_splitAtHyphens, ← joinsWords_cons]
      exact ⟨hjoins, ih rfl⟩

/-- Splitting brings in nothing but spaces. -/
theorem mem_splitAtHyphens {before : Option Char} {text : List Char} {d : Char}
    (h : d ∈ splitAtHyphens before text) : d = ' ' ∨ d ∈ text := by
  induction text generalizing before with
  | nil => cases h
  | cons c rest ih =>
    have hrest (hd : d ∈ splitAtHyphens (some c) rest) : d = ' ' ∨ d ∈ c :: rest :=
      (ih hd).imp_right (List.mem_cons_of_mem c)
    by_cases hjoins : JoinsWords before (c :: rest)
    · rw [splitAtHyphens_cons_of_joins hjoins] at h
      rcases List.mem_cons.mp h with hd | hd
      · exact Or.inl hd
      · exact hrest hd
    · rw [splitAtHyphens_cons_of_not_joins hjoins] at h
      rcases List.mem_cons.mp h with hd | hd
      · exact Or.inr (List.mem_cons.mpr (Or.inl hd))
      · exact hrest hd

/-- A text that is split has more spaces than before. -/
theorem count_splitAtHyphens (before : Option Char) (text : List Char) :
    splitAtHyphens before text = text ∨ text.count ' ' < (splitAtHyphens before text).count ' ' := by
  induction text generalizing before with
  | nil => exact Or.inl rfl
  | cons c rest ih =>
    by_cases hjoins : JoinsWords before (c :: rest)
    · right
      have hle : rest.count ' ' ≤ (splitAtHyphens (some c) rest).count ' ' := by
        rcases ih (some c) with hsame | hmore
        · rw [hsame]
        · exact Nat.le_of_lt hmore
      obtain ⟨rfl, -⟩ := joinsWords_cons.mp hjoins
      rw [splitAtHyphens_cons_of_joins hjoins, List.count_cons_self,
        List.count_cons_of_ne (by decide)]
      exact Nat.lt_succ_of_le hle
    · rw [splitAtHyphens_cons_of_not_joins hjoins, List.count_cons, List.count_cons]
      exact (ih (some c)).imp (congrArg (c :: ·)) (Nat.add_lt_add_right · _)

/-! ## Prepared transcripts -/

/-- A text in lowercase, without a dash but the hyphen and without a hyphen that joins words. -/
structure IsPrepared (text : List Char) : Prop where
  small : lowercase text = text
  dashes : ∀ c ∈ text, c ≠ '\u2013' ∧ c ≠ '\u2014' ∧ c ≠ '\u2212'
  hyphens : Nowhere JoinsWords none text []

/-- What is prepared is in lowercase, without a dash but the hyphen and without a hyphen that joins
words. -/
theorem isPrepared_prepare (text : List Char) : IsPrepared (prepare text) := by
  have hall : ∀ c ∈ prepare text, IsSmall c ∧ plainDash c = c := by
    intro c hc
    rcases mem_splitAtHyphens hc with rfl | hc
    · exact ⟨isSmall_of_lt (by decide) (by decide), by decide⟩
    · obtain ⟨d, hd, rfl⟩ := List.mem_map.mp hc
      refine ⟨?_, plainDash_plainDash d⟩
      unfold plainDash
      split
      · exact isSmall_of_lt (by decide) (by decide)
      · exact isSmall_lowercase [] d hd
  exact {
    small := lowercaseAfter_of_small (fun c hc => (hall c hc).1) []
    dashes := fun c hc => plainDash_eq_self_iff.mp (hall c hc).2
    hyphens := nowhere_splitAtHyphens rfl _ }

section IsPrepared

variable {text : List Char} (h : IsPrepared text)

include h

theorem IsPrepared.unguarded : ∀ c ∈ text, Unguarded c := by
  intro c hc
  have hmem : c ∈ lowercase text := by rwa [h.small]
  exact unguarded_iff.mpr ⟨isSmall_lowercase [] c hmem, plainDash_eq_self_iff.mpr (h.dashes c hc)⟩

/-- Of what is prepared, preparing leaves the composing and the splitting to be done. -/
theorem IsPrepared.prepare_eq : prepare text = splitAtHyphens none (composed text) := by
  have hall : ∀ c ∈ composed text, IsSmall c ∧ plainDash c = c := fun c hc =>
    unguarded_iff.mp ((unguarded_composed text h.unguarded).1 c hc)
  have hdash : (composed text).map plainDash = composed text := by
    rw [List.map_congr_left (g := id) fun c hc => (hall c hc).2, List.map_id]
  rw [prepare, lowercase, lowercaseAfter_of_small (fun c hc => (hall c hc).1), hdash]

/-- What is prepared stays as it is exactly when it is composed. -/
theorem IsPrepared.prepare_eq_self_iff : prepare text = text ↔ composed text = text := by
  rw [h.prepare_eq]
  constructor
  · intro hself
    rcases count_splitAtHyphens none (composed text) with hsame | hmore
    · rw [← hsame, hself]
    · -- composing keeps the spaces, so that none can come of splitting
      rw [hself, (unguarded_composed text h.unguarded).2] at hmore
      exact absurd hmore (Nat.lt_irrefl _)
  · intro hcomposed
    rw [hcomposed, splitAtHyphens_of_nowhere h.hyphens]

end IsPrepared

/-- Preparing a transcript once more changes it unless it came out composed. -/
theorem prepare_prepare_iff (text : List Char) :
    prepare (prepare text) = prepare text ↔ composed (prepare text) = prepare text :=
  (isPrepared_prepare text).prepare_eq_self_iff

/-- A capital J with a caron has no composed form, and a small one has. Made small it is left in two
characters, of which the caron keeps the hyphen behind it; prepared again it is composed. -/
example : prepare "J\u030C-b".toList = "j\u030C-b".toList ∧
    prepare "j\u030C-b".toList = "ǰ b".toList := by
  decide +kernel

end Transcript

end CalcSpeech
