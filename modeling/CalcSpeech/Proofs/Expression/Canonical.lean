import CalcSpeech.Proofs.Expression.Rooted
import CalcSpeech.Proofs.Formula

/-!
# The shape of expressions

Whatever is said, and whatever the words of a pack are, the expression for it has no letters but
those of `sqrt`, no filler, no blanks but single spaces, and no plus signs in a row
(`normalize_isCanonical`). Cleaning gives a text this shape (`isClean_canonicalize`). The formulas
for percentages that are written into it afterwards keep the shape: each begins and ends in a
parenthesis, and takes the place of a text that begins with a digit and does not end inside a root
(`IsClean.rewrite`).
-/

namespace CalcSpeech

open Unicode Pattern Vocabulary Text

namespace Expression

/-! ## Plus signs in a row -/

theorem head?_filter_isBlank (text : List Char) :
    (text.filter (!isBlank ·)).head? = (text.dropWhile isBlank).head? := by
  induction text with
  | nil => rfl
  | cons c rest ih => by_cases hc : isBlank c = true <;> simp [hc, ih]

theorem doublePlusAt_cons {b : Option Char} {c : Char} {rest : List Char} :
    DoublePlusAt b (c :: rest) ↔ c = '+' ∧ (rest.dropWhile isBlank).head? = some '+' := by
  constructor
  · rintro ⟨r, hr, hplus⟩
    obtain ⟨rfl, rfl⟩ := List.cons.inj hr
    exact ⟨rfl, hplus⟩
  · rintro ⟨rfl, hplus⟩
    exact ⟨rest, rfl, hplus⟩

/-- Blanks aside, no two plus signs are neighbours. -/
theorem nowhere_doublePlus_iff {b : Option Char} {text : List Char} :
    Nowhere DoublePlusAt b text [] ↔
      (text.filter (!isBlank ·)).IsChain fun c d => ¬ (c = '+' ∧ d = '+') := by
  induction text generalizing b with
  | nil => simp [nowhere_nil]
  | cons c rest ih =>
    rw [nowhere_cons, List.append_nil, doublePlusAt_cons, ih]
    by_cases hc : isBlank c = true
    · have hplus : c ≠ '+' := by
        intro h
        rw [h] at hc
        exact absurd hc (by decide)
      simp [hc, hplus]
    · rw [List.filter_cons_of_pos (by simpa using hc), List.isChain_cons, head?_filter_isBlank]
      refine and_congr_left fun _ => ⟨?_, ?_⟩
      · rintro hno d hd ⟨hplus, rfl⟩
        exact hno ⟨hplus, hd⟩
      · rintro hchain ⟨hplus, hhead⟩
        exact hchain '+' hhead ⟨hplus, rfl⟩

theorem nowhere_doublePlus_mergePlus {b : Option Char} (text : List Char) :
    Nowhere DoublePlusAt b (mergePlus text) [] := by
  have hdrop {b : Option Char} {text : List Char} (h : Nowhere DoublePlusAt b text []) :
      Nowhere DoublePlusAt b (text.dropWhile isBlank) [] := by
    rw [← List.takeWhile_append_dropWhile (p := isBlank) (l := text), nowhere_append] at h
    exact h.2
  induction text generalizing b with
  | nil => exact nowhere_nil _ _ _
  | cons c rest ih =>
    show Nowhere DoublePlusAt b (consPlus c (mergePlus rest)) []
    unfold consPlus
    split
    · exact hdrop ih
    · rename_i hplus
      rw [nowhere_cons, List.append_nil, doublePlusAt_cons]
      exact ⟨hplus, ih⟩

theorem nowhere_doublePlus_collapse {b : Option Char} {text : List Char}
    (h : Nowhere DoublePlusAt b text []) : Nowhere DoublePlusAt b (collapse text) [] := by
  rw [nowhere_doublePlus_iff, filter_collapse]
  exact nowhere_doublePlus_iff.mp h

/-! ## Formulas in the place of percentages -/

open PercentPhrase

section Reading

variable {percents operations : List String} {b : Option Char} {w a : List Char}
  {k : List (Nat × List Char)}
  (h : (signPhrase (Vocabulary.pattern percents) (Vocabulary.pattern operations)).Reads b w a k)

include h

/-- The operands of a sum or difference with a percentage, and the word or sign at its end. -/
theorem reads_signPhrase : ∃ x y u percent, w = u ++ percent ∧ IsNumeral (plainOperand x) ∧
    IsNumeral (plainOperand y) ∧ k = [(2, y), (1, x)] ∧ Finds percents (behind b u) percent a := by
  obtain ⟨x, v1, k1, l1, rfl, rfl, hx, hrow1⟩ := reads_inOrder_cons.mp h
  obtain ⟨g1, v2, k2, l2, rfl, rfl, hg1, hrow2⟩ := reads_inOrder_cons.mp hrow1
  obtain ⟨o, v3, k3, l3, rfl, rfl, ho, hrow3⟩ := reads_inOrder_cons.mp hrow2
  obtain ⟨g2, v4, k4, l4, rfl, rfl, hg2, hrow4⟩ := reads_inOrder_cons.mp hrow3
  obtain ⟨y, v5, k5, l5, rfl, rfl, hy, hrow5⟩ := reads_inOrder_cons.mp hrow4
  obtain ⟨g3, percent, k6, l6, rfl, rfl, hg3, hpercent⟩ := reads_inOrder_cons.mp hrow5
  obtain ⟨hx', rfl⟩ := (reads_group rfl).mp hx
  obtain ⟨-, rfl⟩ := reads_many_char.mp hg1
  obtain ⟨rfl, -⟩ := reads_pattern.mp ho
  obtain ⟨-, rfl⟩ := reads_many_char.mp hg2
  obtain ⟨hy', rfl⟩ := (reads_group rfl).mp hy
  obtain ⟨-, rfl⟩ := reads_many_char.mp hg3
  have hpercent : (Vocabulary.pattern percents).Reads _ percent a l6 := hpercent
  obtain ⟨rfl, hfinds⟩ := reads_pattern.mp hpercent
  refine ⟨x, y, x ++ (g1 ++ (o ++ (g2 ++ (y ++ g3)))), percent, by simp,
    isNumeral_plainOperand hx', isNumeral_plainOperand hy', rfl, ?_⟩
  simpa using hfinds

end Reading

/-- Each match begins with a digit, does not end between two letters, and becomes a formula. -/
structure BecomesFormula (p : Pattern) (change : Match → List Char) : Prop where
  opens : p.Opens isDecimalDigit
  closes : ∀ {b w a k}, p.Reads b w a k → a.head?.any isLetter = true →
    (behind b w).any isLetter = false
  formula : ∀ {b w a k}, p.Reads b w a k → IsFormula (change ⟨w, k⟩)

section BecomesFormula

variable {p : Pattern} {change : Match → List Char} (hp : BecomesFormula p change)

include hp

theorem BecomesFormula.rooted {text : List Char} (h : Rooted text) (b : Option Char) :
    Rooted (p.rewriteAfter change b text) := by
  induction hn : text.length using Nat.strongRecOn generalizing text b with
  | ind n ih =>
    cases h with
    | nil => exact .nil
    | @root rest hrest =>
      have hquiet : p.Quiet b rootWord rest := by
        apply hp.opens.quiet
        apply nowhere_head
        decide
      rw [rewriteAfter_quiet change hquiet]
      refine .root (ih rest.length ?_ hrest _ rfl)
      rw [← hn, List.length_append]
      exact Nat.lt_add_of_pos_left (by decide)
    | @kept c rest hc hrest =>
      cases hm : p.matchAt? b (c :: rest) with
      | none =>
        rw [rewriteAfter_plain change hm]
        exact .kept hc (ih rest.length (by rw [← hn]; exact Nat.lt_succ_self _) hrest _ rfl)
      | some m =>
        obtain ⟨hne, a, ha, hread⟩ := reads_of_matchAt? hm
        rw [ha] at hm hn ⊢
        have hrooted : Rooted (m.text ++ a) := ha ▸ .kept hc hrest
        have hformula : Rooted (change m) := rooted_of_kept
          ((hp.formula hread).forall_mem (fun _ => isKept_of_isDecimalDigit) (by decide))
        rw [rewriteAfter_found change hm]
        refine hformula.append (ih a.length ?_ (hrooted.of_append (hp.closes hread) hne) _ rfl)
        rw [← hn, List.length_append]
        exact Nat.lt_add_of_pos_left (List.length_pos_iff.mpr hne)

theorem BecomesFormula.tidy {b : Option Char} {text : List Char} {inWord : Bool}
    (h : isTidyAfter inWord text = true) :
    isTidyAfter inWord (p.rewriteAfter change b text) = true := by
  induction b, text using p.search_induction generalizing inWord with
  | nil => exact h
  | plain b c rest hc ih =>
    rw [rewriteAfter_plain change hc]
    rw [isTidyAfter] at h ⊢
    split
    · rename_i hspace
      rw [if_pos hspace, Bool.and_eq_true] at h
      rw [h.1, ih h.2]
      rfl
    · rename_i hspace
      rw [if_neg hspace, Bool.and_eq_true] at h
      rw [h.1, ih h.2]
      rfl
  | found b m a hm hne ih =>
    obtain ⟨-, a', ha, hread⟩ := reads_of_matchAt? hm
    obtain rfl := List.append_cancel_left ha
    rw [rewriteAfter_found change hm,
      isTidyAfter_append ((hp.formula hread).isTidyAfter inWord)]
    exact ih (isTidyAfter_of_append h)

/-- No plus sign comes to stand in front of another, and none comes to stand in front of all. -/
theorem BecomesFormula.plus {b : Option Char} {text : List Char}
    (h : Nowhere DoublePlusAt b text []) :
    Nowhere DoublePlusAt b (p.rewriteAfter change b text) [] ∧
      (((p.rewriteAfter change b text).dropWhile isBlank).head? = some '+' →
        (text.dropWhile isBlank).head? = some '+') := by
  induction b, text using p.search_induction with
  | nil => exact ⟨h, id⟩
  | plain b c rest hc ih =>
    rw [rewriteAfter_plain change hc]
    rw [nowhere_cons, List.append_nil, doublePlusAt_cons] at h
    obtain ⟨hrest, hhead⟩ := ih h.2
    rw [nowhere_cons, List.append_nil, doublePlusAt_cons]
    refine ⟨⟨fun hplus => h.1 ⟨hplus.1, hhead hplus.2⟩, hrest⟩, ?_⟩
    by_cases hblank : isBlank c = true
    · simpa [hblank] using hhead
    · simp [hblank]
  | found b m a hm hne ih =>
    obtain ⟨-, a', ha, hread⟩ := reads_of_matchAt? hm
    obtain rfl := List.append_cancel_left ha
    have hformula := hp.formula hread
    obtain ⟨hrest, -⟩ := ih (nowhere_append.mp h).2
    rw [nowhere_doublePlus_iff] at hrest
    rw [rewriteAfter_found change hm]
    refine ⟨nowhere_append.mpr ⟨hformula.nowhere_doublePlus, nowhere_doublePlus_iff.mpr hrest⟩, ?_⟩
    -- a formula begins with its parenthesis
    intro hplus
    obtain ⟨r, hr⟩ := hformula.exists_cons
    rw [show (⟨m.text, m.groups⟩ : Match) = m from rfl] at hr
    rw [hr] at hplus
    exact absurd hplus (by simp [show isBlank '(' = false by decide])

end BecomesFormula

/-- A text without filler: its letters are those of roots, its blanks are single spaces between
words, and it has no plus signs in a row. -/
structure IsClean (text : List Char) : Prop where
  rooted : Rooted text
  tidy : isTidy text = true
  plus : Nowhere DoublePlusAt none text []

theorem isClean_canonicalize (text : List Char) : IsClean (canonicalize text) where
  rooted := rooted_canonicalize text
  tidy := isTidy_collapse _
  plus := nowhere_doublePlus_collapse (nowhere_doublePlus_mergePlus _)

theorem BecomesFormula.isClean {p : Pattern} {change : Match → List Char}
    (hp : BecomesFormula p change) {text : List Char} (h : IsClean text) :
    IsClean (p.rewrite change text) where
  rooted := hp.rooted h.rooted none
  tidy := by
    rw [isTidy, Bool.or_eq_true]
    have htidy := h.tidy
    rw [isTidy, Bool.or_eq_true] at htidy
    rcases htidy with hempty | htidy
    · rw [List.isEmpty_iff.mp hempty]
      exact Or.inl rfl
    · exact Or.inr (hp.tidy htidy)
  plus := (hp.plus h.plus).1

/-- A sum or difference with a percentage becomes a formula, whatever the words for it are. -/
theorem becomesFormula_signPhrase {percents operations : List String} {sign : Char}
    (hsign : sign = '+' ∨ sign = '-') :
    BecomesFormula (signPhrase (Vocabulary.pattern percents) (Vocabulary.pattern operations))
      fun m => changedBy sign (plainOperand (m.group 1)) (plainOperand (m.group 2)) where
  opens := (opens_atLeastOne_char.seq.group 1).seq
  closes := by
    intro b w a k hread hletter
    obtain ⟨-, -, u, percent, hw, -, -, -, e, he, hfits⟩ := reads_signPhrase hread
    obtain ⟨own, e', rfl⟩ := List.exists_cons_of_ne_nil (mem_entries.mp he).1
    obtain ⟨c, v, rfl, -⟩ := hfits.spells.head
    have hlast := behind_of_ne_nil (behind b u) (List.cons_ne_nil c v)
    rw [hw, behind_append, hlast, Option.any_some, Bool.eq_false_iff]
    -- a percentage that ends in a letter ends with a word
    intro hend
    have hside := hfits.spells.last (List.getLast?_eq_some_getLast (List.cons_ne_nil c v))
      (isBlank_of_isLetter hend)
    have hboundary := hfits.closes (by rw [hside]; exact isAlphanumeric_of_isLetter hend)
    rw [hlast, isWordBoundary, Option.any_some, isWordCharacter_of_isLetter hend] at hboundary
    cases ha : a.head? with
    | none => simp [ha] at hletter
    | some d =>
      rw [ha, Option.any_some] at hletter hboundary
      rw [isWordCharacter_of_isLetter hletter] at hboundary
      exact absurd hboundary (by decide)
  formula := by
    intro b w a k hread
    obtain ⟨x, y, u, percent, hw, hx, hy, rfl, hfinds⟩ := reads_signPhrase hread
    exact .changed hsign hx hy

/-- What is left of a text once it is cleaned and read for percentages is clean. -/
theorem isClean_rewrite (pack : LanguagePack) (text : List Char) :
    IsClean (rewrite (Patterns.ofPack pack) text) :=
  (becomesFormula_signPhrase (Or.inr rfl)).isClean
    ((becomesFormula_signPhrase (Or.inl rfl)).isClean (isClean_canonicalize text))

/-- The shape of expressions. -/
structure IsCanonical (text : List Char) : Prop where
  /-- no blank at either end -/
  trimmed : text.head?.any isBlank = false ∧ text.getLast?.any isBlank = false
  /-- no blank but single spaces -/
  spaced : ∀ u c v, text = u ++ c :: v → isBlank c = true →
    c = ' ' ∧ v.head?.any isBlank = false
  /-- no letter or mark but those of roots -/
  lettered : ∀ u c v, text = u ++ c :: v → isLetter c = true ∨ isMark c = true → InRoot u c v
  /-- no comma, no punctuation of a sentence and no quote -/
  plain : ∀ c ∈ text, c ≠ ',' ∧ c ∉ ['?', '!', ';', ':', '¿', '¡'] ∧ c ∉ quotes
  /-- no plus sign with another one behind it, up to blanks -/
  apart : ∀ u g v, text = u ++ '+' :: (g ++ '+' :: v) → ∃ c ∈ g, isBlank c = false

theorem IsClean.isCanonical {text : List Char} (h : IsClean text) : IsCanonical text where
  trimmed := ⟨head_of_tidy h.tidy, last_of_tidy h.tidy⟩
  spaced := by
    intro u c v htext hc
    have htidy := h.tidy
    rw [htext, isTidy, Bool.or_eq_true] at htidy
    obtain ⟨hspace, d, w, rfl, hd⟩ := eq_space_of_tidy (htidy.resolve_left (by simp)) hc
    exact ⟨hspace, hd⟩
  lettered := fun _ _ _ => h.rooted.inRoot
  plain := by
    refine h.rooted.forall_mem
      (P := fun c => c ≠ ',' ∧ c ∉ ['?', '!', ';', ':', '¿', '¡'] ∧ c ∉ quotes) ?_ ?_
    · intro c hc
      exact (rootWord_plain c hc).2
    · intro c hc
      obtain ⟨-, hquote, hpunctuation⟩ := isKept_iff.mp hc
      refine ⟨(isLetter_of_isKept hc).2.2, ?_, by simpa using hquote⟩
      show c ∉ punctuation
      simpa using hpunctuation
  apart := by
    intro u g v htext
    by_contra hblank
    push Not at hblank
    have hplus := h.plus
    rw [htext, nowhere_append, nowhere_cons] at hplus
    refine hplus.2.1 ⟨g ++ '+' :: v, by simp, ?_⟩
    rw [List.dropWhile_append_of_pos fun c hc => by simpa using hblank c hc]
    simp [show isBlank '+' = false by decide]

end Expression

open Expression

/-- Every expression is in canonical shape, in whatever language it was spoken. -/
theorem normalize_isCanonical {pack : LanguagePack} {lexicon : Lexicon}
    (hlexicon : Lexicon.ofPack pack = .ok lexicon) {transcript : List Char}
    (hlength : transcript.length ≤ 1000) : IsCanonical (lexicon.normalize transcript) := by
  have hshort : Transcript.isTooLong transcript = false := by
    rw [Transcript.isTooLong, decide_eq_false_iff_not]
    exact Nat.not_lt.mpr hlength
  rw [Lexicon.normalize, hshort, if_neg Bool.false_ne_true]
  show IsCanonical (Expression.rewrite lexicon.percent _)
  rw [(Lexicon.isOf_of_ofPack hlexicon).percent]
  exact (isClean_rewrite pack _).isCanonical

/-- A question in English with quotes, filler and plus signs in a row. -/
theorem normalize_isCanonical_english :
    ∃ lexicon, Lexicon.ofPack english = .ok lexicon ∧
      "What's 7, + + 5 % , of the sqrt?".toList.length ≤ 1000 ∧
      IsCanonical (lexicon.normalize "What's 7, + + 5 % , of the sqrt?".toList) := by
  have hpack : english ∈ builtinPacks := List.mem_cons_self
  obtain ⟨lexicon, hlexicon, -⟩ := Lexicon.exists_of_mem hpack
  exact ⟨lexicon, hlexicon, by decide, normalize_isCanonical hlexicon (by decide)⟩

end CalcSpeech
