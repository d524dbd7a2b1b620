import CalcSpeech.Expression
import CalcSpeech.Proofs.Vocabulary.Reading
import CalcSpeech.Proofs.Text.Words

/-!
# Expressions that are clean already

Cleaning an expression changes nothing when its only letters are those of `sqrt`, no period ends a
sentence in it, no two plus signs are in a row, and its only blanks are single spaces
(`canonicalize_showRoots`).
-/

namespace CalcSpeech.Expression

open Unicode Text Pattern

/-! ## Roots -/

/-- The word for a root. -/
def rootPattern : Pattern := inOrder (rootWord.map .just)

theorem reads_rootPattern {b : Option Char} {w a : List Char} {k : List (Nat × List Char)} :
    rootPattern.Reads b w a k ↔ w = rootWord ∧ k = [] := by
  have hrow : rootPattern = seq (just 's') (seq (just 'q') (seq (just 'r') (just 't'))) := rfl
  rw [hrow]
  constructor
  · intro h
    cases h with
    | seq hs h =>
      cases h with
      | seq hq h =>
        cases h with
        | seq hr ht =>
          obtain ⟨rfl, rfl⟩ := reads_just.mp hs
          obtain ⟨rfl, rfl⟩ := reads_just.mp hq
          obtain ⟨rfl, rfl⟩ := reads_just.mp hr
          obtain ⟨rfl, rfl⟩ := reads_just.mp ht
          exact ⟨rfl, rfl⟩
  · intro ⟨hw, hk⟩
    rw [hw, hk]
    have hlast {b : Option Char} {c : Char} {a : List Char} : (just c).Reads b [c] a [] :=
      reads_just.mpr ⟨rfl, rfl⟩
    exact .seq (u := ['s']) hlast (.seq (u := ['q']) hlast (.seq (u := ['r']) hlast hlast))

theorem opens_rootPattern : rootPattern.Opens (· == 's') := by
  intro b w a k h
  rw [(reads_rootPattern.mp h).1]
  rfl

/-- The word for a root is found wherever it stands. -/
theorem matchAt?_rootPattern (b : Option Char) (a : List Char) :
    rootPattern.matchAt? b (rootWord ++ a) = some ⟨rootWord, []⟩ := by
  refine matchAt?_of_first (k := []) (List.cons_ne_nil _ _) (first_of_reads rfl ?_ ?_)
  · exact reads_rootPattern.mpr ⟨rfl, rfl⟩
  · intro w a' k _ hr
    exact reads_rootPattern.mp hr

/-- Roots that are shown are hidden again, where no letter of theirs stands apart. -/
theorem hideRoots_showRoots {text : List Char} (h : 's' ∉ text) :
    hideRoots (showRoots text) = text := by
  have hrewrite (before : Option Char) :
      rootPattern.rewriteAfter (fun _ => [rootSign]) before (showRoots text) = text := by
    induction text generalizing before with
    | nil => rfl
    | cons c rest ih =>
      have hrest : 's' ∉ rest := fun hs => h (List.mem_cons_of_mem c hs)
      by_cases hc : c = rootSign
      · have hshow : showRoots (c :: rest) = rootWord ++ showRoots rest := by
          simp [showRoots, hc]
        have hfound := matchAt?_rootPattern before (showRoots rest)
        rw [hshow]
        exact (rewriteAfter_found (m := ⟨rootWord, []⟩) _ hfound).trans (by rw [ih hrest, hc]; rfl)
      · have hshow : showRoots (c :: rest) = c :: showRoots rest := by
          simp [showRoots, hc]
        have hplain : rootPattern.matchAt? before (c :: showRoots rest) = none := by
          apply opens_rootPattern.matchAt?_eq_none
          intro hs
          exact h (by simp [beq_iff_eq.mp hs])
        rw [hshow, rewriteAfter_plain _ hplain, ih hrest]
  exact hrewrite none

/-! ## Full stops and plus signs -/

/-- A period that ends a sentence stands here. -/
def StopAt (_ : Option Char) (rest : List Char) : Prop :=
  ∃ r, rest = '.' :: r ∧ r.head?.all isBlank = true

/-- A plus sign with another one behind it stands here. -/
def DoublePlusAt (_ : Option Char) (rest : List Char) : Prop :=
  ∃ r, rest = '+' :: r ∧ (r.dropWhile isBlank).head? = some '+'

theorem StopAt.head {b : Option Char} {rest : List Char} (h : StopAt b rest) :
    rest.head? = some '.' := by
  obtain ⟨r, rfl, -⟩ := h
  rfl

theorem DoublePlusAt.head {b : Option Char} {rest : List Char} (h : DoublePlusAt b rest) :
    rest.head? = some '+' := by
  obtain ⟨r, rfl, -⟩ := h
  rfl

/-- A text without full stops stays as it is, and no other text does. -/
theorem dropFullStops_eq_self {b : Option Char} {text : List Char} :
    dropFullStops text = text ↔ Nowhere StopAt b text [] := by
  have hlength (text : List Char) : (dropFullStops text).length ≤ text.length := by
    induction text with
    | nil => exact Nat.le_refl 0
    | cons c rest ih =>
      rw [dropFullStops]
      split
      · exact Nat.le_succ_of_le ih
      · exact Nat.succ_le_succ ih
  -- a dropped stop makes the text shorter, and nothing makes up for it
  induction text generalizing b with
  | nil => simp [dropFullStops, nowhere_nil]
  | cons c rest ih =>
    have hrest : dropFullStops rest = rest ↔ Nowhere StopAt (some c) rest [] := ih
    rw [nowhere_cons, List.append_nil, dropFullStops, ← hrest]
    split
    · rename_i hstop
      constructor
      · intro h
        have := hlength rest
        rw [h, List.length_cons] at this
        omega
      · intro ⟨hno, _⟩
        exact absurd ⟨rest, by rw [hstop.1], hstop.2⟩ hno
    · rename_i hstop
      constructor
      · intro h
        refine ⟨?_, (List.cons.inj h).2⟩
        intro ⟨r, hr, hblank⟩
        obtain ⟨rfl, rfl⟩ := List.cons.inj hr
        exact hstop ⟨rfl, hblank⟩
      · intro ⟨_, h⟩
        rw [h]

/-- A text without plus signs in a row stays as it is. -/
theorem mergePlus_eq_self {b : Option Char} {text : List Char}
    (h : Nowhere DoublePlusAt b text []) : mergePlus text = text := by
  induction text generalizing b with
  | nil => rfl
  | cons c rest ih =>
    rw [nowhere_cons, List.append_nil] at h
    have hrest : rest.foldr consPlus [] = rest := ih h.2
    show consPlus c (rest.foldr consPlus []) = c :: rest
    rw [hrest, consPlus, if_neg]
    intro ⟨hc, hplus⟩
    exact h.1 ⟨rest, by rw [hc], hplus⟩

/-! ## Clean expressions -/

/-- Whether a character is never dropped from an expression. -/
def isKept (c : Char) : Bool := !isFiller c && !quotes.contains c && !punctuation.contains c

theorem isKept_iff {c : Char} : isKept c = true ↔
    isFiller c = false ∧ quotes.contains c = false ∧ punctuation.contains c = false := by
  simp [isKept, and_assoc]

/-- Of a text without quotes and punctuation only filler and gaps are changed. -/
theorem canonicalize_eq_blanked {shown text : List Char} (hhide : hideRoots shown = text)
    (hkept : ∀ c ∈ text, quotes.contains c = false ∧ punctuation.contains c = false)
    (hstops : Nowhere StopAt none text [])
    (hplus : Nowhere DoublePlusAt none (showRoots (text.map blankFiller)) []) :
    canonicalize shown = collapse (showRoots (text.map blankFiller)) := by
  have hquotes : text.filter (!quotes.contains ·) = text := by
    rw [List.filter_eq_self]
    intro c hc
    rw [(hkept c hc).1]
    rfl
  have hpunctuation : text.map (fun c => if punctuation.contains c then ' ' else c) = text := by
    rw [List.map_congr_left (g := id), List.map_id]
    intro c hc
    rw [(hkept c hc).2]
    rfl
  unfold canonicalize
  simp only
  rw [hhide, hquotes, hpunctuation, dropFullStops_eq_self.mpr hstops, mergePlus_eq_self hplus]

theorem canonicalize_eq_filled {text : List Char}
    (hkept : ∀ c ∈ text, quotes.contains c = false ∧ punctuation.contains c = false)
    (hletter : 's' ∉ text) (hstops : Nowhere StopAt none text [])
    (hplus : Nowhere DoublePlusAt none (showRoots (text.map blankFiller)) []) :
    canonicalize (showRoots text) = collapse (showRoots (text.map blankFiller)) :=
  canonicalize_eq_blanked (hideRoots_showRoots hletter) hkept hstops hplus

/-- Of a text without filler only the gaps are changed. -/
theorem canonicalize_eq_collapse {text : List Char} (hkept : ∀ c ∈ text, isKept c = true)
    (hstops : Nowhere StopAt none text [])
    (hplus : Nowhere DoublePlusAt none (showRoots text) []) :
    canonicalize (showRoots text) = collapse (showRoots text) := by
  have hclass {c : Char} (hc : c ∈ text) :
      isFiller c = false ∧ quotes.contains c = false ∧ punctuation.contains c = false :=
    isKept_iff.mp (hkept c hc)
  have hletter : 's' ∉ text := fun hs => absurd (hkept 's' hs) (by decide)
  have hfiller : text.map blankFiller = text := by
    rw [List.map_congr_left (g := id), List.map_id]
    intro c hc
    rw [blankFiller, (hclass hc).1]
    rfl
  have hfilled := canonicalize_eq_filled (fun c hc => (hclass hc).2) hletter hstops
    (hfiller.symm ▸ hplus)
  rwa [hfiller] at hfilled

/-- A clean expression stays as it is. -/
theorem canonicalize_showRoots {text : List Char} (hkept : ∀ c ∈ text, isKept c = true)
    (hstops : Nowhere StopAt none text []) (hplus : Nowhere DoublePlusAt none (showRoots text) [])
    (htidy : isTidy (showRoots text) = true) :
    canonicalize (showRoots text) = showRoots text := by
  rw [canonicalize_eq_collapse hkept hstops hplus, collapse_of_tidy htidy]

/-- Without the sign for a root nothing is shown. -/
theorem showRoots_eq_self {text : List Char} (h : rootSign ∉ text) : showRoots text = text := by
  induction text with
  | nil => rfl
  | cons c rest ih =>
    have hc : c ≠ rootSign := fun hc => h (by simp [hc])
    have hrest : showRoots rest = rest := ih fun hr => h (List.mem_cons_of_mem c hr)
    unfold showRoots at hrest ⊢
    rw [List.flatMap_cons, if_neg hc, hrest]
    rfl

end CalcSpeech.Expression
