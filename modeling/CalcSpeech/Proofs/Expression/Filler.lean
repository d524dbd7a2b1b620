import CalcSpeech.Proofs.Expression.Canonical

/-!
# Expressions with words left in them

Words that no stage has read are filler: of a row of words and operands only the operands are left
(`canonicalize_join`).
-/

namespace CalcSpeech.Expression

open Unicode Text Pattern

/-! ## Texts without the word for a root -/

/-- The word for a root stands here. -/
def RootAt (_ : Option Char) (rest : List Char) : Prop := rootWord <+: rest

theorem RootAt.head {b : Option Char} {rest : List Char} (h : RootAt b rest) :
    rest.head? = some 's' := by
  obtain ⟨r, rfl⟩ := h
  rfl

theorem hideRoots_eq_self {text : List Char} (h : Nowhere RootAt none text []) :
    hideRoots text = text := by
  have hopens : rootPattern.OpensAt RootAt := by
    intro b w a k hread
    rw [(reads_rootPattern.mp hread).1]
    exact ⟨a, rfl⟩
  exact hopens.rewriteAfter _ h

/-- The letters do not come together from a word and what stands behind it. -/
theorem nowhere_root_of_not_infix {b : Option Char} {t a : List Char} (ht : ¬ rootWord <:+: t)
    (ha : IsTail a) : Nowhere RootAt b t a := by
  rintro v c w rfl hroot
  refine ht (List.IsInfix.trans (List.IsPrefix.isInfix ?_) (List.suffix_append v (c :: w)).isInfix)
  rcases ha with rfl | ⟨rest, rfl⟩
  · rwa [List.append_nil] at hroot
  · rcases List.prefix_or_prefix_of_prefix hroot (List.prefix_append (c :: w) (' ' :: rest)) with
      h | ⟨s, hs⟩
    · exact h
    · -- the word would go on with a space
      rw [RootAt, ← hs, List.prefix_append_right_inj] at hroot
      cases s with
      | nil => exact ⟨[], by rw [← hs, List.append_nil, List.append_nil]⟩
      | cons d s =>
        obtain rfl : d = ' ' := (List.cons_prefix_cons.mp hroot).1
        have hspace : ' ' ∈ rootWord := by rw [← hs]; simp
        exact absurd hspace (by decide)

/-! ## Rows of words and operands -/

/-- A word that is left in a text, or an operand, in which no period ends a sentence. -/
inductive Part : List Char → Prop
  | word {t} : (∀ c ∈ t, isLetter c = true) → ¬ rootWord <:+: t → Part t
  | operand {t} : t ≠ [] → isTidy t = true → (∀ c ∈ t, isKept c = true ∧ c ≠ rootSign) →
      (∀ b a, IsTail a → Nowhere StopAt b t a) → Part t

/-- The parts of a row that are no words. -/
def operands (parts : List (List Char)) : List (List Char) := parts.filter (!·.all isLetter)

section Parts

variable {t : List Char}

theorem operands_word {ts : List (List Char)} (ht : ∀ c ∈ t, isLetter c = true) :
    operands (t :: ts) = operands ts := by
  have hall : t.all isLetter = true := List.all_eq_true.mpr ht
  rw [operands, List.filter_cons, hall]
  rfl

theorem operands_cons {ts : List (List Char)} {c : Char} (hc : c ∈ t)
    (hletter : isLetter c = false) : operands (t :: ts) = t :: operands ts := by
  have hall : t.all isLetter = false := by
    rw [Bool.eq_false_iff]
    intro h
    exact Bool.false_ne_true (hletter.symm.trans (List.all_eq_true.mp h c hc))
  rw [operands, List.filter_cons, hall]
  rfl

/-- What a part lacks. -/
theorem Part.mem (h : Part t) {c : Char} (hc : c ∈ t) :
    (quotes.contains c = false ∧ punctuation.contains c = false) ∧ c ≠ rootSign := by
  cases h with
  | word hletters =>
    have hnone : ∀ d ∈ quotes ++ punctuation ++ [rootSign], isLetter d = false := by
      decide +kernel
    have hnot : c ∉ quotes ++ punctuation ++ [rootSign] := fun hmem =>
      Bool.false_ne_true ((hnone c hmem).symm.trans (hletters c hc))
    simp only [List.mem_append, List.mem_singleton, not_or] at hnot
    simpa [hnot.1.1, hnot.1.2] using hnot.2
  | operand _ _ hkept => exact ⟨(isKept_iff.mp (hkept c hc).1).2, (hkept c hc).2⟩

theorem Part.nowhere_root (h : Part t) {b : Option Char} {a : List Char} (ha : IsTail a) :
    Nowhere RootAt b t a := by
  cases h with
  | word _ hroot => exact nowhere_root_of_not_infix hroot ha
  | operand _ _ hkept =>
    exact nowhere_of_not_mem (fun _ _ => RootAt.head) fun hs => absurd (hkept 's' hs).1 (by decide)

theorem Part.nowhere_stop (h : Part t) {b : Option Char} {a : List Char} (ha : IsTail a) :
    Nowhere StopAt b t a := by
  cases h with
  | word hletters =>
    exact nowhere_of_not_mem (fun _ _ => StopAt.head) fun hpoint =>
      absurd (hletters '.' hpoint) (by decide)
  | operand _ _ _ hstop => exact hstop b a ha

/-- Cleaning blanks out a word and leaves an operand. -/
theorem Part.map_blankFiller (h : Part t) :
    (∀ c ∈ t, isLetter c = true) ∧ (∀ c ∈ t.map blankFiller, c = ' ') ∨
      (∃ c ∈ t, isLetter c = false) ∧ t.map blankFiller = t := by
  cases h with
  | word hletters =>
    refine Or.inl ⟨hletters, fun c hc => ?_⟩
    obtain ⟨d, hd, rfl⟩ := List.mem_map.mp hc
    rw [blankFiller, isFiller, hletters d hd]
    rfl
  | operand hne _ hkept =>
    have hfiller : ∀ c ∈ t, isFiller c = false := fun c hc => (isKept_iff.mp (hkept c hc).1).1
    refine Or.inr ⟨?_, ?_⟩
    · obtain ⟨c, hc⟩ := List.exists_mem_of_ne_nil t hne
      have hnone := hfiller c hc
      rw [isFiller, Bool.or_eq_false_iff, Bool.or_eq_false_iff] at hnone
      exact ⟨c, hc, hnone.1.1⟩
    · rw [List.map_congr_left (g := id), List.map_id]
      intro c hc
      rw [blankFiller, hfiller c hc]
      rfl

end Parts

section Rows

variable {parts : List (List Char)} (hparts : ∀ t ∈ parts, Part t)

include hparts

theorem words_blanked :
    words ((join [' '] parts).map blankFiller) = (operands parts).flatMap words := by
  induction parts with
  | nil => rfl
  | cons t ts ih =>
    obtain ⟨ht, hts⟩ := List.forall_mem_cons.mp hparts
    have hrow : words ((join [' '] (t :: ts)).map blankFiller) =
        words (t.map blankFiller) ++ words ((join [' '] ts).map blankFiller) := by
      cases ts with
      | nil => simp [join, words, wordsAfter]
      | cons t' ts =>
        have hspace : blankFiller ' ' = ' ' := by decide
        rw [join_cons_cons, List.map_append, List.map_cons, hspace, words_append_blank _ (by decide)]
    rw [hrow, ih hts]
    rcases ht.map_blankFiller with ⟨hletters, hblank⟩ | ⟨⟨c, hc, hletter⟩, hsame⟩
    · have hnone : words (t.map blankFiller) = [] := by
        refine words_of_blanks fun c hc => ?_
        rw [hblank c hc]
        decide
      rw [hnone, operands_word hletters, List.nil_append]
    · rw [hsame, operands_cons hc hletter, List.flatMap_cons]

/-- What is at no space and in no part, whatever word may follow it, is nowhere in a row. -/
theorem nowhere_row {Q : Option Char → List Char → Prop} (hspace : ∀ b r, ¬ Q b (' ' :: r))
    (hpart : ∀ t, Part t → ∀ b a, IsTail a → Nowhere Q b t a) (b : Option Char) :
    Nowhere Q b (join [' '] parts) [] := by
  induction parts generalizing b with
  | nil => exact nowhere_nil _ _ _
  | cons t ts ih =>
    obtain ⟨ht, hts⟩ := List.forall_mem_cons.mp hparts
    cases ts with
    | nil => exact hpart t ht b [] (Or.inl rfl)
    | cons t' ts =>
      rw [join_cons_cons, nowhere_append, nowhere_cons]
      exact ⟨hpart t ht _ _ (Or.inr ⟨_, rfl⟩), hspace _ _, ih hts _⟩

theorem nowhere_root_join : Nowhere RootAt none (join [' '] parts) [] :=
  nowhere_row hparts (fun _ _ h => absurd (Option.some.inj h.head) (by decide))
    (fun _ ht _ _ => ht.nowhere_root) none

theorem nowhere_stop_join : Nowhere StopAt none (join [' '] parts) [] :=
  nowhere_row hparts (fun _ _ h => absurd (Option.some.inj h.head) (by decide))
    (fun _ ht _ _ => ht.nowhere_stop) none

theorem mem_row {c : Char} (hc : c ∈ join [' '] parts) :
    (quotes.contains c = false ∧ punctuation.contains c = false) ∧ c ≠ rootSign := by
  rcases Vocabulary.mem_join hc with rfl | ⟨t, ht, hct⟩
  · decide
  · exact (hparts t ht).mem hct

theorem tidy_of_mem_operands : ∀ t ∈ operands parts, t ≠ [] ∧ isTidy t = true := by
  intro t ht
  obtain ⟨hmem, hall⟩ := List.mem_filter.mp ht
  cases hparts t hmem with
  | word hletters =>
    rw [List.all_eq_true.mpr hletters] at hall
    exact absurd hall (by decide)
  | operand hne htidy _ => exact ⟨hne, htidy⟩

/-- What is left of a row with its words blanked out. -/
theorem collapse_blanked :
    collapse ((join [' '] parts).map blankFiller) = join [' '] (operands parts) := by
  rw [collapse, words_blanked hparts, join_flatMap_words (tidy_of_mem_operands hparts)]

/-- Of words and operands only the operands are left, if no two plus signs come together. -/
theorem canonicalize_join (hplus : Nowhere DoublePlusAt none (join [' '] (operands parts)) []) :
    canonicalize (join [' '] parts) = join [' '] (operands parts) := by
  have hshow : showRoots ((join [' '] parts).map blankFiller) =
      (join [' '] parts).map blankFiller := by
    apply showRoots_eq_self
    intro hmem
    obtain ⟨c, hc, hsign⟩ := List.mem_map.mp hmem
    unfold blankFiller at hsign
    split at hsign
    · exact absurd hsign (by decide)
    · exact (mem_row hparts hc).2 hsign
  have hplus' : Nowhere DoublePlusAt none ((join [' '] parts).map blankFiller) [] := by
    rw [nowhere_doublePlus_iff] at hplus ⊢
    rwa [← filter_collapse, collapse_blanked hparts]
  have hfilled := canonicalize_eq_blanked (hideRoots_eq_self (nowhere_root_join hparts))
    (fun c hc => (mem_row hparts hc).1) (nowhere_stop_join hparts) (by rwa [hshow])
  rw [hfilled, hshow, collapse_blanked hparts]

end Rows

end CalcSpeech.Expression
