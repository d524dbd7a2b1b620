import CalcSpeech.Proofs.Numeral
import CalcSpeech.Proofs.Silence

/-!
# Formulas

The formulas that percentages come to pass through the stages behind the percentages as they are
(`rewriteAll_formula`): they have no words, no percent sign, and are clean.
-/

namespace CalcSpeech.PercentPhrase

open Unicode Pattern Text Expression

/-- The formulas that percentages of numerals come to. -/
inductive IsFormula : List Char → Prop
  | changed {sign base rate} : sign = '+' ∨ sign = '-' → IsNumeral base → IsNumeral rate →
      IsFormula (changedBy sign base rate)
  | share {base rate} : IsNumeral base → IsNumeral rate → IsFormula (shareOf base rate)

section Formulas

variable {f : List Char}

theorem IsFormula.forall_mem (h : IsFormula f) {P : Char → Prop}
    (hdigit : ∀ c, isDecimalDigit c = true → P c) (hformula : ∀ c ∈ "().*/+- 10".toList, P c) :
    ∀ c ∈ f, P c := by
  have hnumeral {n : List Char} (hn : IsNumeral n) : ∀ c ∈ n, P c := by
    intro c hc
    rcases hn.mem hc with hd | rfl
    · exact hdigit c hd
    · exact hformula '.' (by decide)
  cases h with
  | @changed sign base rate hsign hbase hrate =>
    refine forall_mem_changedBy hformula ?_ (hnumeral hbase) (hnumeral hrate)
    rcases hsign with rfl | rfl
    · exact hformula '+' (by decide)
    · exact hformula '-' (by decide)
  | @share base rate hbase hrate =>
    intro c hc
    have hpart {part : List Char} (hpart : part ⊆ "().*/+- 10".toList) (hc : c ∈ part) : P c :=
      hformula c (hpart hc)
    simp only [shareOf, List.mem_cons, List.mem_append] at hc
    rcases hc with (((rfl | hc) | hc) | hc) | hc
    · exact hformula '(' (by decide)
    · exact hnumeral hbase c hc
    · exact hpart (by decide) hc
    · exact hnumeral hrate c hc
    · exact hpart (by decide) hc

/-- No character of a class without digits and the characters of formulas is in a formula. -/
theorem IsFormula.forall_eq_false (h : IsFormula f) {g : Char → Bool}
    (hdigit : ∀ c, isDecimalDigit c = true → g c = false)
    (hformula : ∀ c ∈ "().*/+- 10".toList, g c = false) : ∀ c ∈ f, g c = false :=
  h.forall_mem hdigit hformula

theorem IsFormula.silent (h : IsFormula f) : Silent f :=
  h.forall_mem (fun _ => isVerbal_of_isDecimalDigit) (by decide)

/-- What is not in a list of characters that are no digits. -/
theorem contains_of_isDecimalDigit {cs : List Char} (hcs : ∀ d ∈ cs, isDecimalDigit d = false)
    {c : Char} (h : isDecimalDigit c = true) : cs.contains c = false := by
  rw [Bool.eq_false_iff]
  intro hc
  have := hcs c (by simpa using hc)
  rw [h] at this
  exact absurd this Bool.noConfusion

theorem isKept_of_isDecimalDigit {c : Char} (h : isDecimalDigit c = true) : isKept c = true := by
  have hquotes : ∀ d ∈ quotes, isDecimalDigit d = false := by decide +kernel
  have hpunctuation : ∀ d ∈ punctuation, isDecimalDigit d = false := by decide +kernel
  rw [isKept, isFiller, isLetter_of_isDecimalDigit h, isMark_of_isDecimalDigit h,
    beq_eq_false_of_digit isDecimalDigit_comma c h, contains_of_isDecimalDigit hquotes h,
    contains_of_isDecimalDigit hpunctuation h]
  rfl

/-- The parts of a formula between its spaces. -/
theorem IsFormula.tidy (h : IsFormula f) : isTidy f = true := by
  have hparts (parts : List (List Char)) (hne : parts ≠ []) (hf : f = join [' '] parts)
      (hfull : ∀ p ∈ parts, p ≠ [] ∧ ∀ c ∈ p, isBlank c = false) : isTidy f = true := by
    rw [isTidy, hf, isTidyAfter_join hne hfull, Bool.or_true]
  cases h with
  | @changed sign base rate hsign hbase hrate =>
    have hsolid : isBlank sign = false := by rcases hsign with rfl | rfl <;> decide
    apply hparts ['(' :: base, ['*'], ['(', '1'], [sign], rate, ['/'],
      ['1', '0', '0', ')', ')']] (List.cons_ne_nil _ _)
    · simp [changedBy, join]
    · intro p hp
      simp only [List.mem_cons, List.not_mem_nil, or_false] at hp
      rcases hp with rfl | rfl | rfl | rfl | rfl | rfl | rfl
      · exact ⟨List.cons_ne_nil _ _, List.forall_mem_cons.mpr ⟨by decide, hbase.solid⟩⟩
      · decide
      · decide
      · exact ⟨List.cons_ne_nil _ _, by simpa using hsolid⟩
      · exact ⟨hrate.ne_nil, hrate.solid⟩
      · decide
      · decide
  | @share base rate hbase hrate =>
    apply hparts ['(' :: base, ['*'], rate, ['/'], ['1', '0', '0', ')']]
      (List.cons_ne_nil _ _)
    · simp [shareOf, join]
    · intro p hp
      simp only [List.mem_cons, List.not_mem_nil, or_false] at hp
      rcases hp with rfl | rfl | rfl | rfl | rfl
      · exact ⟨List.cons_ne_nil _ _, List.forall_mem_cons.mpr ⟨by decide, hbase.solid⟩⟩
      · decide
      · exact ⟨hrate.ne_nil, hrate.solid⟩
      · decide
      · decide

theorem IsFormula.exists_cons (h : IsFormula f) : ∃ r, f = '(' :: r := by
  cases h <;> exact ⟨_, rfl⟩

theorem IsFormula.isTidyAfter (h : IsFormula f) (inWord : Bool) :
    isTidyAfter inWord f = true := by
  obtain ⟨r, rfl⟩ := h.exists_cons
  have htidy : Text.isTidyAfter false ('(' :: r) = true := by simpa [isTidy] using h.tidy
  cases inWord with
  | false => exact htidy
  | true => exact isTidyAfter_of_tidyAfter htidy

theorem IsFormula.nowhere_stop (h : IsFormula f) {b : Option Char} {a : List Char} :
    Nowhere StopAt b f a := by
  have hplain {u a : List Char} {b : Option Char} (hu : '.' ∉ u) : Nowhere StopAt b u a :=
    nowhere_of_not_mem (fun _ _ => StopAt.head) hu
  have hnumeral {n a : List Char} {b : Option Char} (hn : IsNumeral n) : Nowhere StopAt b n a :=
    hn.nowhere_exposed.mono fun _ _ => ExposedPointAt.of_stop
  cases h with
  | @changed sign base rate hsign hbase hrate =>
    have hparts : changedBy sign base rate =
        ['('] ++ (base ++ (" * (1 ".toList ++ ([sign, ' '] ++ (rate ++ " / 100))".toList)))) := by
      simp [changedBy]
    have hsign : '.' ∉ [sign, ' '] := by rcases hsign with rfl | rfl <;> decide
    rw [hparts, nowhere_append, nowhere_append, nowhere_append, nowhere_append, nowhere_append]
    exact ⟨hplain (by decide), hnumeral hbase, hplain (by decide), hplain hsign,
      hnumeral hrate, hplain (by decide)⟩
  | @share base rate hbase hrate =>
    have hparts : shareOf base rate =
        ['('] ++ (base ++ (" * ".toList ++ (rate ++ " / 100)".toList))) := by
      simp [shareOf]
    rw [hparts, nowhere_append, nowhere_append, nowhere_append, nowhere_append]
    exact ⟨hplain (by decide), hnumeral hbase, hplain (by decide), hnumeral hrate,
      hplain (by decide)⟩

theorem IsFormula.nowhere_doublePlus (h : IsFormula f) {b : Option Char} {a : List Char} :
    Nowhere DoublePlusAt b f a := by
  have hplain {u a : List Char} {b : Option Char} (hu : '+' ∉ u) : Nowhere DoublePlusAt b u a :=
    nowhere_of_not_mem (fun _ _ => DoublePlusAt.head) hu
  have hnumeral {n : List Char} (hn : IsNumeral n) : '+' ∉ n := by
    intro hplus
    rcases hn.mem hplus with hd | hpoint
    · exact absurd hd (by decide)
    · exact absurd hpoint (by decide)
  cases h with
  | @changed sign base rate hsign hbase hrate =>
    have hparts : changedBy sign base rate =
        ('(' :: base) ++ (" * (1 ".toList ++ ([sign] ++ (' ' :: rate ++ " / 100))".toList))) := by
      simp [changedBy]
    have hbefore : '+' ∉ '(' :: base := by
      rw [List.mem_cons, not_or]
      exact ⟨by decide, hnumeral hbase⟩
    have hbehind : '+' ∉ ' ' :: rate ++ " / 100))".toList := by
      simp only [List.cons_append, List.mem_cons, List.mem_append, not_or]
      exact ⟨by decide, hnumeral hrate, by decide⟩
    rw [hparts, nowhere_append, nowhere_append, nowhere_append]
    refine ⟨hplain hbefore, hplain (by decide), nowhere_cons.mpr ⟨?_, nowhere_nil _ _ _⟩,
      hplain hbehind⟩
    -- behind its own sign the formula goes on with the digits of the rate
    intro h
    obtain ⟨r, hr, hplus⟩ := h
    obtain ⟨d, ds, rfl, hd⟩ := hrate.cons
    obtain ⟨-, rfl⟩ := List.cons.inj hr
    have hnext : d = '+' := by
      simpa [isBlank_of_isDecimalDigit hd, (by decide : isBlank ' ' = true)] using hplus
    rw [hnext] at hd
    exact absurd hd (by decide)
  | @share base rate hbase hrate =>
    refine hplain ?_
    simp only [shareOf, List.cons_append, List.mem_cons, List.mem_append, not_or]
    exact ⟨by decide, ⟨⟨⟨hnumeral hbase, by decide⟩, hnumeral hrate⟩, by decide⟩⟩

/-- A formula is a clean expression. -/
theorem IsFormula.canonicalize_eq (h : IsFormula f) : canonicalize f = f := by
  have hkept : ∀ c ∈ f, isKept c = true :=
    h.forall_mem (fun _ => isKept_of_isDecimalDigit) (by decide)
  have hroot : showRoots f = f := by
    apply showRoots_eq_self
    intro hroot
    have hall : ∀ c ∈ f, (c == rootSign) = false :=
      h.forall_eq_false (beq_eq_false_of_digit (by decide +kernel)) (by decide)
    have := hall rootSign hroot
    rw [beq_self_eq_true] at this
    exact Bool.noConfusion this
  have hclean : canonicalize (showRoots f) = showRoots f :=
    canonicalize_showRoots hkept h.nowhere_stop (by rw [hroot]; exact h.nowhere_doublePlus)
      (by rw [hroot]; exact h.tidy)
  rwa [hroot] at hclean

/-- Without a percent sign or a word there is no sum or difference with a percentage. -/
theorem signPhrase_of_silent {pack : LanguagePack} (hpack : pack.IsOrdinary)
    (hsilent : Silent f) (hpercent : '%' ∉ f) (operation : Pattern)
    (formula : List Char → List Char → List Char) :
    rewriteOperands (some (signPhrase (sign pack) operation)) formula f = f := by
  have hfree : ∀ c ∈ f, (isVerbal c || c == '%') = false := by
    intro c hc
    have hne : (c == '%') = false := by
      rw [beq_eq_false_iff_ne]
      intro he
      exact hpercent (by rw [← he]; exact hc)
    rw [hsilent c hc, hne]
    rfl
  exact rewriteAfter_of_needs (needsAt_inOrder (by simp) (needs_percentSign hpack)) _ none hfree

theorem rewritePlusMinus_of_silent {pack : LanguagePack} (hpack : pack.IsOrdinary)
    (hsilent : Silent f) (hpercent : '%' ∉ f) : rewritePlusMinus (Patterns.ofPack pack) f = f := by
  show rewriteOperands (some _) _ (rewriteOperands (some _) _ f) = f
  rw [signPhrase_of_silent hpack hsilent hpercent, signPhrase_of_silent hpack hsilent hpercent]

theorem IsFormula.no_percent (h : IsFormula f) : '%' ∉ f := by
  intro hpercent
  have hall : ∀ c ∈ f, (c == '%') = false :=
    h.forall_eq_false (beq_eq_false_of_digit (by decide)) (by decide)
  exact absurd (hall '%' hpercent) (by decide)

/-- In a formula no sum or difference with a percentage is left. -/
theorem IsFormula.rewritePlusMinus_eq (h : IsFormula f) {pack : LanguagePack}
    (hpack : pack.IsOrdinary) : rewritePlusMinus (Patterns.ofPack pack) f = f :=
  rewritePlusMinus_of_silent hpack h.silent h.no_percent

/-- The stages behind the percentages leave a formula as it is. -/
theorem rewriteAll_formula {pack : LanguagePack} {lexicon : Lexicon} (hpack : pack.IsOrdinary)
    (hof : lexicon.IsOf pack) (h : IsFormula f) :
    Stage.rewriteAll [.operators, .cleanup] lexicon f = f := by
  simp only [Stage.rewriteAll, List.foldl_cons, List.foldl_nil, Stage.rewrite]
  rw [operators_of_silent hpack hof h.silent, Expression.rewrite, h.canonicalize_eq, hof.percent,
    h.rewritePlusMinus_eq hpack]

end Formulas

end CalcSpeech.PercentPhrase
