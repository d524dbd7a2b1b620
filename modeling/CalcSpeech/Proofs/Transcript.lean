import CalcSpeech.Proofs.Text.Lowercase
import CalcSpeech.Proofs.Text.Places
import CalcSpeech.Transcript

/-!
# Transcripts in the form in which they are read

A text in steady characters is in that form already (`prepare_eq_self`), and in front of a space it
has no influence on the rest of a transcript (`prepare_append`).
-/

namespace CalcSpeech

open Unicode

namespace Unicode

/-- A space is joined with nothing that follows it. -/
theorem compose?_space (n : Nat) : compose? 0x20 n = none := by
  have hall : canonicalPairs.all (fun e => e.2.1 != 0x20) = true := by decide +kernel
  have hfind : canonicalPairs.find? (fun e => e.2.1 == 0x20 && e.2.2 == n &&
      !compositionExclusions.contains e.1) = none := by
    rw [List.find?_eq_none]
    intro e he hjoin
    have hne := List.all_eq_true.mp hall e he
    simp only [Bool.and_eq_true, beq_iff_eq] at hjoin
    simp [hjoin.1.1] at hne
  have hhangul : composeHangul 0x20 n = none := by
    unfold composeHangul
    rw [if_neg (by omega), if_neg (by omega)]
  rw [compose?, hhangul]
  exact congrArg (Option.map _) hfind

/-- A base that is joined with nothing stays in front of what follows it. -/
theorem exists_composeAfter {base : Nat} (h : ∀ n, compose? base n = none) (points : List Nat)
    (kept : List Nat) (highest : Nat) :
    ∃ rest, composeAfter base kept highest points = base :: rest := by
  induction points generalizing kept highest with
  | nil => exact ⟨_, rfl⟩
  | cons n points ih =>
    simp only [composeAfter, h, ite_self]
    split
    · exact ⟨_, rfl⟩
    · exact ih _ _

/-- A space in front of a text stays there when the text is composed. -/
theorem exists_composed_space (text : List Char) :
    ∃ rest, composed (' ' :: text) = ' ' :: rest := by
  unfold composed
  split
  · exact ⟨_, rfl⟩
  · show ∃ rest, (composePoints (insertByClass 0x20
      (orderMarks (text.flatMap (decomposition ·.toNat))))).map Char.ofNat = ' ' :: rest
    rw [insertByClass_of_class_zero (by decide), composePoints, if_pos (by decide)]
    obtain ⟨rest, hrest⟩ := exists_composeAfter compose?_space
      (orderMarks (text.flatMap (decomposition ·.toNat))) [] 0
    rw [hrest]
    exact ⟨_, rfl⟩

/-- A text with a space in front is clear once it is taken apart and ordered. -/
theorem clear_of_isTail {text : List Char} (h : IsTail text) :
    Clear (orderMarks (text.flatMap (decomposition ·.toNat))) := by
  rcases h with rfl | ⟨rest, rfl⟩
  · trivial
  · show Clear (insertByClass 0x20 (orderMarks (rest.flatMap (decomposition ·.toNat))))
    rw [insertByClass_of_class_zero (by decide)]
    exact ⟨lone_of_lt (by decide), Or.inl (by decide)⟩

/-- Steady characters stay as they are in front of any text. -/
theorem lowercaseAfter_append {u : List Char} (h : ∀ c ∈ u, Steady c) (before text : List Char) :
    lowercaseAfter before (u ++ text) = u ++ lowercaseAfter (u.reverse ++ before) text := by
  induction u generalizing before with
  | nil => rfl
  | cons c u ih =>
    have hc := h c (by simp)
    rw [List.cons_append, lowercaseAfter, ih fun d hd => h d (by simp [hd])]
    simp [hc.notSigma, hc.small]

end Unicode

namespace Transcript

/-- In front of a text without hyphens there is nothing to split. -/
theorem splitAtHyphens_append {u : List Char} (h : '-' ∉ u) (before : Option Char)
    (text : List Char) :
    splitAtHyphens before (u ++ text) = u ++ splitAtHyphens (behind before u) text := by
  induction u generalizing before with
  | nil => rfl
  | cons c u ih =>
    have hc : c ≠ '-' := fun hc => h (by simp [hc])
    have hu : '-' ∉ u := fun hr => h (List.mem_cons_of_mem c hr)
    rw [List.cons_append, splitAtHyphens, ih hu]
    simp [hc]

/-- Steady characters without hyphens and dashes, in front of a space, stay as they are, and the
rest of the transcript is read as if it stood alone. -/
theorem prepare_append {u text : List Char} (hsteady : ∀ c ∈ u, Steady c)
    (hlow : ∀ c ∈ u, c.toNat < 0x300) (hdash : ∀ c ∈ u, plainDash c = c) (hhyphen : '-' ∉ u)
    (htext : IsTail text) : prepare (u ++ text) = u ++ prepare text ∧ IsTail (prepare text) := by
  have hmap : u.map plainDash = u := by
    rw [List.map_congr_left (g := id) hdash, List.map_id]
  have hcompose : composed (u ++ text) = u ++ composed text :=
    composed_append (fun c hc => (hsteady c hc).settled) hlow (clear_of_isTail htext)
  rcases htext with rfl | ⟨rest, rfl⟩
  · refine ⟨?_, Or.inl rfl⟩
    have hself := hcompose
    rw [show composed [] = [] from rfl] at hself
    rw [prepare, hself, lowercase, lowercaseAfter_append hsteady, List.map_append, hmap,
      splitAtHyphens_append hhyphen]
    rfl
  · obtain ⟨rest', hspace⟩ := exists_composed_space rest
    have hsmall (before : List Char) :
        lowercaseAfter before (' ' :: rest') = ' ' :: lowercase rest' :=
      congrArg (' ' :: ·) (lowercaseAfter_of_cut (cut_cons (by decide) before) rest')
    have hsplit (before : Option Char) (text : List Char) :
        splitAtHyphens before (' ' :: text) = ' ' :: splitAtHyphens (some ' ') text := by
      simp [splitAtHyphens]
    have hprepare : prepare (' ' :: rest) =
        ' ' :: splitAtHyphens (some ' ') ((lowercase rest').map plainDash) := by
      rw [prepare, hspace, lowercase, hsmall, List.map_cons, show plainDash ' ' = ' ' from rfl,
        hsplit]
    refine ⟨?_, Or.inr ⟨_, hprepare⟩⟩
    rw [hprepare, prepare, hcompose, hspace, lowercase, lowercaseAfter_append hsteady, hsmall,
      List.map_append, hmap, splitAtHyphens_append hhyphen, List.map_cons,
      show plainDash ' ' = ' ' from rfl, hsplit]

/-- A text of steady characters without hyphens and dashes is read as it is. -/
theorem prepare_eq_self {text : List Char} (hsteady : ∀ c ∈ text, Steady c)
    (hdash : ∀ c ∈ text, plainDash c = c) (hhyphen : '-' ∉ text) : prepare text = text := by
  have hmap : text.map plainDash = text := by
    rw [List.map_congr_left (g := id) hdash, List.map_id]
  have hsplit := splitAtHyphens_append hhyphen none []
  rw [List.append_nil] at hsplit
  rw [prepare, lowercase_composed_of_steady hsteady, hmap, hsplit]
  exact List.append_nil text

/-- Only ASCII characters have small forms in ASCII. -/
theorem toNat_toLower_lt {c : Char} : c.toLower.toNat < 0x80 ↔ c.toNat < 0x80 := by
  by_cases hc : c.toNat < 0x80
  · have hall : ∀ n < 0x80, (Char.ofNat n).toLower.toNat < 0x80 := by decide
    exact ⟨fun _ => hc, fun _ => forall_char_lt (fun c => c.toLower.toNat < 0x80) hall hc⟩
  · have hsame : c.toLower = c := by
      unfold Char.toLower
      rw [dif_neg]
      rintro ⟨-, hle⟩
      have hupper : c.toNat ≤ 0x5A := UInt32.le_iff_toNat_le.mp hle
      omega
    rw [hsame]

/-- Of a transcript in ASCII letters are made small and hyphens are split. -/
theorem prepare_of_ascii {text : List Char} (h : ∀ c ∈ text, c.toNat < 0x80) :
    prepare text = splitAtHyphens none (text.map Char.toLower) := by
  have hcomposed : composed text = text :=
    composed_eq_self (fun c hc => settled_of_lt (Nat.lt_trans (h c hc) (by decide)))
      fun c hc => combiningClass_of_lt (Nat.lt_trans (h c hc) (by decide))
  have hsmall (text : List Char) (h : ∀ c ∈ text, c.toNat < 0x80) (before : List Char) :
      lowercaseAfter before text = text.map Char.toLower := by
    induction text generalizing before with
    | nil => rfl
    | cons c rest ih =>
      obtain ⟨hc, hrest⟩ := List.forall_mem_cons.mp h
      have hsigma : ¬ (c == 'Σ') = true := by
        rw [beq_iff_eq]
        rintro rfl
        exact absurd hc (by decide)
      rw [lowercaseAfter, if_neg hsigma, lowercaseAlone, if_pos hc, ih hrest]
      rfl
  have hdash : ∀ c ∈ text.map Char.toLower, plainDash c = id c := by
    intro c hc
    obtain ⟨d, hd, rfl⟩ := List.mem_map.mp hc
    have hlow := toNat_toLower_lt.mpr (h d hd)
    rw [plainDash, if_neg]
    · rfl
    · rintro (hc | hc | hc) <;> rw [hc] at hlow <;> exact absurd hlow (by decide)
  rw [prepare, hcomposed, lowercase, hsmall text h, List.map_congr_left hdash, List.map_id]

/-- The characters that are left of spoken arithmetic when its words are small. -/
def isPlainSpoken (c : Char) : Bool :=
  isDecimalDigit c || isSmallLatin c || ['.', '%', ' ', '×', '÷'].contains c

theorem isPlainSpoken_iff {c : Char} : isPlainSpoken c = true ↔
    isDecimalDigit c = true ∨ isSmallLatin c = true ∨ c ∈ ['.', '%', ' ', '×', '÷'] := by
  rw [isPlainSpoken, Bool.or_eq_true, Bool.or_eq_true, List.contains_iff_mem, or_assoc]

theorem steady_of_isPlainSpoken {c : Char} (h : isPlainSpoken c = true) : Steady c := by
  rcases isPlainSpoken_iff.mp h with hdigit | hletter | hsign
  · exact steady_of_isDecimalDigit hdigit
  · exact steady_of_isSmallLatin hletter
  · have hlow : ∀ c ∈ ['.', '%', ' '], c.toNat < 0x80 ∧ c.toLower = c := by decide
    have hsigns : ∀ c ∈ ['×', '÷'], (isLetter c = false ∧ isMark c = false ∧
        c.toNat ∉ fleetingSymbols) ∧ lowercaseAlone c = [c] ∧ c ≠ 'Σ' ∧ c.toNat < 0x300 := by
      decide +kernel
    rcases List.mem_append.mp (show c ∈ ['.', '%', ' '] ++ ['×', '÷'] from hsign) with hc | hc
    · exact steady_of_lt (hlow c hc).1 (hlow c hc).2
    · obtain ⟨⟨hletter, hmark, hkeeps⟩, hsmall, hsigma, hlt⟩ := hsigns c hc
      exact ⟨settled_of_class hletter hmark hkeeps, combiningClass_of_lt hlt, hsmall, hsigma⟩

theorem ne_of_isPlainSpoken {c d : Char} (hc : isPlainSpoken c = true)
    (hd : isPlainSpoken d = false) : c ≠ d := by
  rintro rfl
  rw [hc] at hd
  exact Bool.noConfusion hd

/-- The characters of spoken arithmetic with small words, and commas, are steady and no dashes. -/
theorem steady_of_plainSpoken {c : Char} (h : isPlainSpoken c = true ∨ c = ',') :
    Steady c ∧ plainDash c = c ∧ c ≠ '-' := by
  have hne {d : Char} (hd : isPlainSpoken d = false) (hcomma : d ≠ ',') : c ≠ d := by
    rintro rfl
    rcases h with hspoken | rfl
    · exact ne_of_isPlainSpoken hspoken hd rfl
    · exact hcomma rfl
  refine ⟨?_, ?_, hne (by decide) (by decide)⟩
  · rcases h with hspoken | rfl
    · exact steady_of_isPlainSpoken hspoken
    · exact steady_of_lt (by decide) (by decide)
  · rw [plainDash, if_neg]
    rw [not_or, not_or]
    exact ⟨hne (by decide +kernel) (by decide), hne (by decide +kernel) (by decide),
      hne (by decide +kernel) (by decide)⟩

/-- Spoken arithmetic with small words, and with commas, is read as it is. -/
theorem prepare_of_plainSpoken {text : List Char}
    (h : ∀ c ∈ text, isPlainSpoken c = true ∨ c = ',') : prepare text = text :=
  prepare_eq_self (fun c hc => (steady_of_plainSpoken (h c hc)).1)
    (fun c hc => (steady_of_plainSpoken (h c hc)).2.1)
    fun hhyphen => (steady_of_plainSpoken (h '-' hhyphen)).2.2 rfl

end Transcript

end CalcSpeech
