import CalcSpeech.Proofs.Expression

/-!
# Texts whose only letters are those of roots

A rooted text is put together from roots and from characters that are never dropped, so each of its
letters is one of an occurrence of `sqrt` (`Rooted.inRoot`). Cleaning makes every text rooted
(`rooted_canonicalize`). A rooted text can be cut in two wherever the cut does not part two letters
(`Rooted.of_append`).
-/

namespace CalcSpeech.Expression

open Unicode Text

/-- Texts of roots and of characters that are never dropped. -/
inductive Rooted : List Char → Prop
  | nil : Rooted []
  | root {rest} : Rooted rest → Rooted (rootWord ++ rest)
  | kept {c rest} : isKept c = true → Rooted rest → Rooted (c :: rest)

/-- The character `c` between `u` and `v` is one of an occurrence of `sqrt`. -/
def InRoot (u : List Char) (c : Char) (v : List Char) : Prop :=
  ∃ x p q y, u = x ++ p ∧ v = q ++ y ∧ p ++ c :: q = "sqrt".toList

theorem InRoot.append_left {u v : List Char} {c : Char} (h : InRoot u c v) (w : List Char) :
    InRoot (w ++ u) c v := by
  obtain ⟨x, p, q, y, rfl, hv, hroot⟩ := h
  exact ⟨w ++ x, p, q, y, (List.append_assoc w x p).symm, hv, hroot⟩

theorem isLetter_of_isKept {c : Char} (h : isKept c = true) :
    isLetter c = false ∧ isMark c = false ∧ c ≠ ',' := by
  have hfiller := (isKept_iff.mp h).1
  simpa [isFiller, and_assoc] using hfiller

/-- The characters of roots are letters, and no other filler. -/
theorem rootWord_plain : ∀ c ∈ rootWord, isLetter c = true ∧ c ≠ ',' ∧ c ∉ punctuation ∧
    c ∉ quotes := by decide

theorem rooted_of_kept {text : List Char} (h : ∀ c ∈ text, isKept c = true) : Rooted text := by
  induction text with
  | nil => exact .nil
  | cons c rest ih =>
    obtain ⟨hc, hrest⟩ := List.forall_mem_cons.mp h
    exact .kept hc (ih hrest)

namespace Rooted

variable {text u v : List Char}

theorem append (hu : Rooted u) (hv : Rooted v) : Rooted (u ++ v) := by
  induction hu with
  | nil => exact hv
  | root _ ih =>
    rw [List.append_assoc]
    exact .root ih
  | kept hc _ ih => exact .kept hc ih

/-- What holds of the characters of roots and of those never dropped holds of all characters. -/
theorem forall_mem (h : Rooted text) {P : Char → Prop} (hroot : ∀ c ∈ rootWord, P c)
    (hkept : ∀ c, isKept c = true → P c) : ∀ c ∈ text, P c := by
  induction h with
  | nil =>
    intro c hc
    cases hc
  | root _ ih => exact List.forall_mem_append.mpr ⟨hroot, ih⟩
  | kept hc _ ih => exact List.forall_mem_cons.mpr ⟨hkept _ hc, ih⟩

/-- The letters and marks of a rooted text are those of its roots. -/
theorem inRoot (h : Rooted text) {c : Char} (htext : text = u ++ c :: v)
    (hc : isLetter c = true ∨ isMark c = true) : InRoot u c v := by
  induction h generalizing u with
  | nil => simp at htext
  | @root rest _ ih =>
    rcases List.append_eq_append_iff.mp htext with ⟨x, rfl, hrest⟩ | ⟨x, hroot, hv⟩
    · exact (ih hrest).append_left rootWord
    · cases x with
      | nil =>
        rw [List.append_nil] at hroot
        have hrest : InRoot [] c v := ih hv.symm
        simpa [← hroot] using hrest.append_left rootWord
      | cons d q =>
        -- the character stands in the root at the front of the text
        obtain ⟨rfl, rfl⟩ := List.cons.inj hv
        exact ⟨[], u, q, rest, rfl, rfl, hroot.symm⟩
  | @kept d rest hd _ ih =>
    cases u with
    | nil =>
      obtain ⟨rfl, -⟩ := List.cons.inj htext
      obtain ⟨hletter, hmark, -⟩ := isLetter_of_isKept hd
      rw [hletter, hmark] at hc
      exact absurd hc (by simp)
    | cons e u =>
      obtain ⟨rfl, hrest⟩ := List.cons.inj htext
      exact (ih hrest).append_left [d]

/-- Where a cut does not part two letters, what stands behind it is rooted. -/
theorem of_append {b : Option Char} (h : Rooted (u ++ v))
    (hcut : v.head?.any isLetter = true → (behind b u).any isLetter = false) (hu : u ≠ []) :
    Rooted v := by
  generalize htext : u ++ v = text at h
  induction h generalizing u b with
  | nil => exact absurd (List.append_eq_nil_iff.mp htext).1 hu
  | @root rest hrest ih =>
    rcases List.append_eq_append_iff.mp htext with ⟨x, hroot, rfl⟩ | ⟨x, rfl, hv⟩
    · cases x with
      | nil => exact hrest
      | cons d x =>
        -- a cut inside the root would part two of its letters
        have hletter {e : Char} (he : e ∈ rootWord) : isLetter e = true := (rootWord_plain e he).1
        have hlast := hcut (hletter (by rw [hroot]; simp))
        rw [behind_of_ne_nil b hu, Option.any_some, hletter] at hlast
        · exact absurd hlast Bool.noConfusion
        · rw [hroot]
          exact List.mem_append_left _ (List.getLast_mem hu)
    · by_cases hx : x = []
      · rw [hx, List.nil_append] at hv
        rwa [← hv]
      · exact ih (b := behind b rootWord) (by rwa [behind_append] at hcut) hx hv.symm
  | @kept d rest _ hrest ih =>
    cases u with
    | nil => exact absurd rfl hu
    | cons e u =>
      obtain ⟨rfl, htail⟩ := List.cons.inj htext
      by_cases hx : u = []
      · obtain rfl : v = rest := by rwa [hx] at htail
        exact hrest
      · exact ih (b := some e) hcut hx htail

theorem dropWhile_isBlank (h : Rooted text) : Rooted (text.dropWhile isBlank) := by
  induction h with
  | nil => exact .nil
  | @root rest hrest _ => exact .root hrest
  | @kept c rest hc hrest ih =>
    rw [List.dropWhile_cons]
    split
    · exact ih
    · exact .kept hc hrest

theorem mergePlus (h : Rooted text) : Rooted (mergePlus text) := by
  have hother {c : Char} {rest : List Char} (hc : c ≠ '+') : consPlus c rest = c :: rest := by
    rw [consPlus, if_neg fun hplus => hc hplus.1]
  induction h with
  | nil => exact .nil
  | @root rest _ ih =>
    have hrow : Expression.mergePlus (rootWord ++ rest) = rootWord ++ Expression.mergePlus rest := by
      show consPlus 's' (consPlus 'q' (consPlus 'r' (consPlus 't' _))) = _
      rw [hother (by decide), hother (by decide), hother (by decide), hother (by decide)]
      rfl
    rw [hrow]
    exact .root ih
  | @kept c rest hc _ ih =>
    show Rooted (consPlus c (Expression.mergePlus rest))
    unfold consPlus
    split
    · exact ih.dropWhile_isBlank
    · exact .kept hc ih

/-- The words of a rooted text are rooted. -/
theorem of_mem_wordsAfter {current : List Char} (hcurrent : Rooted current.reverse)
    (h : Rooted text) : ∀ w ∈ wordsAfter current text, Rooted w := by
  induction h generalizing current with
  | nil =>
    intro w hw
    rw [wordsAfter] at hw
    split at hw
    · cases hw
    · rwa [List.mem_singleton.mp hw]
  | @root rest _ ih =>
    have hsolid : wordsAfter current (rootWord ++ rest) =
        wordsAfter (rootWord.reverse ++ current) rest := by
      show wordsAfter current ('s' :: 'q' :: 'r' :: 't' :: rest) = _
      simp only [wordsAfter, show isBlank 's' = false by decide, show isBlank 'q' = false by decide,
        show isBlank 'r' = false by decide, show isBlank 't' = false by decide]
      rfl
    rw [hsolid]
    apply ih
    rw [List.reverse_append, List.reverse_reverse]
    simpa using hcurrent.append (.root .nil)
  | @kept c rest hc _ ih =>
    rw [wordsAfter]
    split
    · split
      · exact ih .nil
      · exact List.forall_mem_cons.mpr ⟨hcurrent, ih .nil⟩
    · apply ih
      rw [List.reverse_cons]
      exact hcurrent.append (.kept hc .nil)

theorem join {parts : List (List Char)} (h : ∀ p ∈ parts, Rooted p) :
    Rooted (Text.join [' '] parts) := by
  induction parts with
  | nil => exact .nil
  | cons p parts ih =>
    obtain ⟨hp, hparts⟩ := List.forall_mem_cons.mp h
    cases parts with
    | nil => exact hp
    | cons q parts =>
      show Rooted (p ++ [' '] ++ Text.join [' '] (q :: parts))
      exact (hp.append (.kept (by decide) .nil)).append (ih hparts)

theorem collapse (h : Rooted text) : Rooted (collapse text) := join (of_mem_wordsAfter .nil h)

end Rooted

/-- Where signs stand for roots, the roots make the text rooted. -/
theorem rooted_showRoots {text : List Char} (h : ∀ c ∈ text, isKept c = true) :
    Rooted (showRoots text) := by
  induction text with
  | nil => exact .nil
  | cons c rest ih =>
    obtain ⟨hc, hrest⟩ := List.forall_mem_cons.mp h
    unfold showRoots at ih ⊢
    rw [List.flatMap_cons]
    split
    · exact .root (ih hrest)
    · exact .kept hc (ih hrest)

theorem mem_of_mem_dropFullStops {text : List Char} {c : Char} (h : c ∈ dropFullStops text) :
    c ∈ text := by
  induction text with
  | nil => exact h
  | cons d rest ih =>
    rw [dropFullStops] at h
    split at h
    · exact List.mem_cons_of_mem d (ih h)
    · rcases List.mem_cons.mp h with rfl | h
      · exact List.mem_cons_self
      · exact List.mem_cons_of_mem d (ih h)

/-- Quotes, punctuation and filler are gone from a cleaned text. -/
theorem isKept_of_mem {text : List Char} {c : Char}
    (h : c ∈ (dropFullStops ((text.filter (!quotes.contains ·)).map fun c =>
      if punctuation.contains c then ' ' else c)).map blankFiller) : isKept c = true := by
  obtain ⟨d, hd, rfl⟩ := List.mem_map.mp h
  obtain ⟨e, he, rfl⟩ := List.mem_map.mp (mem_of_mem_dropFullStops hd)
  have hquote : quotes.contains e = false := by
    simpa using (List.mem_filter.mp he).2
  by_cases hpunctuation : punctuation.contains e = true
  · rw [if_pos hpunctuation]
    decide
  · rw [if_neg hpunctuation, blankFiller]
    split
    · decide
    · rename_i hfiller
      exact isKept_iff.mpr ⟨Bool.eq_false_iff.mpr hfiller, hquote, Bool.eq_false_iff.mpr hpunctuation⟩

/-- A cleaned text is rooted. -/
theorem rooted_canonicalize (text : List Char) : Rooted (canonicalize text) :=
  (rooted_showRoots fun _ => isKept_of_mem).mergePlus.collapse

end CalcSpeech.Expression
