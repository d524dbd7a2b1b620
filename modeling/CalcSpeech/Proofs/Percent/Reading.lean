import CalcSpeech.Proofs.Percent.Phrases

/-!
# How spoken percentages are read

A phrase with a percentage that makes up a whole text is what its pattern prefers, so it is
rewritten as a whole, with its two numerals as operands.
-/

namespace CalcSpeech

open Unicode Pattern Vocabulary Text

/-- Phrases are told apart by their first words when their characters are. -/
theorem areDistinct_of_spelling {phrases : List String}
    (h : Spelling.AreDistinct (phrases.map String.toList)) : AreDistinct phrases := by
  intro p hp q hq hfirst
  exact h _ (List.mem_map_of_mem hp) _ (List.mem_map_of_mem hq) hfirst

/-- A whole text that is preferred is rewritten as a whole. -/
theorem rewrite_of_prefers {p : Pattern} {text : List Char} {k : List (Nat × List Char)}
    (hne : text ≠ []) (h : p.Prefers none text [] k) (change : Match → List Char) :
    p.rewrite change text = change ⟨text, k⟩ := by
  have hrewrite := h.rewriteAfter_eq hne change
  rwa [List.append_nil, rewriteAfter_nil, List.append_nil] at hrewrite

section Reading

variable {pack : LanguagePack} (hpack : pack.IsOrdinary) (hapart : pack.spelling.IsApart)
  {mark : List Char}

theorem endsOperand_cons {c : Char} {a : List Char}
    (h : (isDecimalDigit c || c == '.' || c == ',') = false) : EndsOperand (c :: a) := h

theorem endsOperand_space {a : List Char} : EndsOperand (' ' :: a) :=
  endsOperand_cons (by decide)

theorem PercentMark.endsOperand (h : PercentMark pack mark) {a : List Char} :
    EndsOperand (mark ++ a) := by
  cases h with
  | attached => exact endsOperand_cons (by decide)
  | apart => exact endsOperand_space

include hpack in
/-- The blanks in front of a percent sign and the sign, as they are read. -/
theorem PercentMark.exists_prefers (hapart : pack.spelling.IsApart) (h : PercentMark pack mark)
    {b : Option Char} {a : List Char} (ha : a.head?.any isWordCharacter = false) :
    ∃ g m, mark = g ++ m ∧ loose.Prefers b g (m ++ a) [] ∧
      (PercentPhrase.sign pack).Prefers (behind b g) m a [] := by
  have hproper : ∀ p ∈ "%" :: pack.words .percentage, IsProper p.toList := by
    intro p hp
    rcases List.mem_cons.mp hp with rfl | hp
    · exact Or.inr ⟨'%', by decide, rfl⟩
    · exact (hpack.words hp).1
  have hdistinct : AreDistinct ("%" :: pack.words .percentage) :=
    areDistinct_of_spelling hapart.distinct.2.2.2.2.2.1
  cases h with
  | attached =>
    refine ⟨[], ['%'], rfl, prefers_loose (by simp) (by show isBlank '%' = false; decide), ?_⟩
    exact prefers_pattern hproper hdistinct (p := "%") (by simp) ((fits_sign (by decide)).mpr rfl)
  | @apart p hp =>
    refine ⟨[' '], p.toList, rfl, prefers_loose (by decide) ?_, ?_⟩
    · exact (hproper p hp).head_solid
    · exact prefers_pattern hproper hdistinct hp (fits_self (hproper p hp) behind_space ha)

variable {x y : List Char} (hx : IsNumeral x) (hy : IsNumeral y)

theorem prefers_group_operand {i : Nat} {b : Option Char} {n a : List Char} (hn : IsNumeral n)
    (ha : EndsOperand a) : (group i operand).Prefers b n a [(i, n)] :=
  (prefers_operand hn ha).group i

theorem IsNumeral.head_solid {n a : List Char} (hn : IsNumeral n) :
    (n ++ a).head?.any isBlank = false := by
  obtain ⟨d, ds, rfl, hd⟩ := hn.cons
  exact isBlank_of_isDecimalDigit hd

include hpack hapart hx hy

/-- A verb, a percentage, a connective and a quantity. -/
theorem exists_prefers_verbPhrase (hmark : PercentMark pack mark) {template : PhraseTemplate}
    (hverbs : ∀ p ∈ template.verbs, IsProper p.toList) (hverb : AreDistinct template.verbs)
    (hlinks : ∀ p ∈ template.connectives, IsProper p.toList)
    (hlink : AreDistinct template.connectives) {v l : String} (hv : v ∈ template.verbs)
    (hl : l ∈ template.connectives) :
    ∃ p, PercentPhrase.verbPhrase? (PercentPhrase.sign pack) template = some p ∧
      p.Prefers none (v.toList ++ ' ' :: (x ++ (mark ++ ' ' :: (l.toList ++ ' ' :: y)))) []
        [(2, y), (1, x)] := by
  obtain ⟨g, m, rfl, hg, hm⟩ := hmark.exists_prefers hpack hapart
    (b := behind (behind (behind none v.toList) [' ']) x)
    (a := [' '] ++ (l.toList ++ ([' '] ++ y)) ++ []) head_space
  refine ⟨_, by rw [PercentPhrase.verbPhrase?, pattern?_of_mem hverbs hv,
    pattern?_of_mem hlinks hl]; rfl, ?_⟩
  have htext : v.toList ++ ' ' :: (x ++ (g ++ m ++ ' ' :: (l.toList ++ ' ' :: y))) =
      v.toList ++ ([' '] ++ (x ++ (g ++ (m ++ ([' '] ++ (l.toList ++ ([' '] ++ y))))))) := by simp
  have hend : EndsOperand (g ++ (m ++ ([' '] ++ (l.toList ++ ([' '] ++ y)))) ++ []) := by
    have := hmark.endsOperand (a := [' '] ++ (l.toList ++ ([' '] ++ y)))
    simpa using this
  rw [htext]
  exact Prefers.seq
    (prefers_pattern hverbs hverb hv (b := none) (fits_self (hverbs v hv) rfl head_space))
    (Prefers.seq (prefers_space (by rw [List.append_assoc]; exact hx.head_solid))
      (Prefers.seq (prefers_group_operand hx hend)
        (Prefers.seq (by simpa using hg) (Prefers.seq (by simpa using hm)
          (Prefers.seq (prefers_space (by rw [List.append_assoc]; exact (hlinks l hl).head_solid))
            (Prefers.seq (prefers_pattern hlinks hlink hl
              (fits_self (hlinks l hl) behind_space head_space))
              (Prefers.seq (prefers_space hy.head_solid)
                (prefers_group_operand hy rfl))))))))

/-- A quantity, a word for the operation, and a percentage. -/
theorem prefers_signPhrase (hmark : PercentMark pack mark) {phrases : List String}
    (hwords : ∀ p ∈ phrases, IsProper p.toList) (hdistinct : AreDistinct phrases) {o : String}
    (ho : o ∈ phrases) {b : Option Char} {a : List Char}
    (ha : a.head?.any isWordCharacter = false) :
    (PercentPhrase.signPhrase (PercentPhrase.sign pack) (pattern phrases)).Prefers b
      (x ++ ' ' :: (o.toList ++ ' ' :: (y ++ mark))) a [(2, y), (1, x)] := by
  obtain ⟨g, m, rfl, hg, hm⟩ := hmark.exists_prefers hpack hapart
    (b := behind (behind (behind (behind (behind b x) [' ']) o.toList) [' ']) y) ha
  have htext : x ++ ' ' :: (o.toList ++ ' ' :: (y ++ (g ++ m))) =
      x ++ ([' '] ++ (o.toList ++ ([' '] ++ (y ++ (g ++ m))))) := by simp
  have hend : EndsOperand (g ++ m ++ a) := hmark.endsOperand
  rw [htext]
  exact Prefers.seq (prefers_group_operand hx endsOperand_space)
    (Prefers.seq (u := [' '])
      (prefers_loose (by decide) (by rw [List.append_assoc]; exact (hwords o ho).head_solid))
      (Prefers.seq (prefers_pattern hwords hdistinct ho
        (fits_self (hwords o ho) behind_space head_space))
        (Prefers.seq (prefers_loose (by decide) (by rw [List.append_assoc]; exact hy.head_solid))
          (Prefers.seq (prefers_group_operand hy hend) (Prefers.seq hg hm)))))

/-- A percentage of a quantity. -/
theorem exists_prefers_quantityPhrase (hmark : PercentMark pack mark)
    (hwords : ∀ p ∈ pack.words .ofWords, IsProper p.toList)
    (hdistinct : AreDistinct (pack.words .ofWords)) {o : String} (ho : o ∈ pack.words .ofWords) :
    ∃ p, (PercentPhrase.Patterns.ofPack pack).ofQuantity = some p ∧
      p.Prefers none (x ++ (mark ++ ' ' :: (o.toList ++ ' ' :: y))) [] [(2, y), (1, x)] := by
  obtain ⟨g, m, rfl, hg, hm⟩ := hmark.exists_prefers hpack hapart (b := behind none x)
    (a := [' '] ++ (o.toList ++ ([' '] ++ (y ++ []))) ++ []) head_space
  refine ⟨_, by rw [PercentPhrase.Patterns.ofPack, pattern?_of_mem hwords ho]; rfl, ?_⟩
  have htext : x ++ (g ++ m ++ ' ' :: (o.toList ++ ' ' :: y)) =
      x ++ (g ++ (m ++ ([' '] ++ (o.toList ++ ([' '] ++ (y ++ [])))))) := by simp
  have hend : EndsOperand (g ++ (m ++ ([' '] ++ (o.toList ++ ([' '] ++ (y ++ []))))) ++ []) := by
    have := hmark.endsOperand (a := [' '] ++ (o.toList ++ ([' '] ++ y)))
    simpa using this
  have hpercent : (just '%').Needs (· == '%') := needs_char
  have hneeds : (inOrder [loose, just '%']).Needs (· == '%') := needsAt_inOrder (by simp) hpercent
  rw [htext]
  exact Prefers.seq (prefers_group_operand hx hend)
    (Prefers.seq (by simpa using hg) (Prefers.seq (by simpa using hm)
      (Prefers.seq (prefers_space (by rw [List.append_assoc]; exact (hwords o ho).head_solid))
        (Prefers.seq (prefers_pattern hwords hdistinct ho
          (fits_self (hwords o ho) behind_space head_space))
          (Prefers.seq (prefers_space (by rw [List.append_assoc]; exact hy.head_solid))
            (Prefers.seq (prefers_group_operand hy rfl) hneeds.prefers_optional_nil))))))

/-! ## What is made of them -/

open PercentPhrase

variable (formula : List Char → List Char → List Char)

omit hpack hapart in
/-- A phrase that is preferred with two numerals as operands becomes their formula. -/
theorem rewriteOperands_of_prefers {p : Pattern} {text : List Char} (hne : text ≠ [])
    (h : p.Prefers none text [] [(2, y), (1, x)]) :
    rewriteOperands (some p) formula text = formula x y := by
  refine (rewrite_of_prefers hne h _).trans ?_
  show formula (plainOperand x) (plainOperand y) = _
  rw [hx.plainOperand_eq, hy.plainOperand_eq]

theorem verbPhrase_eq_formula (hmark : PercentMark pack mark) {kind : PhraseKind}
    (hverb : AreDistinct (pack.phrases kind).verbs)
    (hlink : AreDistinct (pack.phrases kind).connectives) {v l : String}
    (hv : v ∈ (pack.phrases kind).verbs) (hl : l ∈ (pack.phrases kind).connectives) :
    rewriteOperands (verbPhrase? (sign pack) (pack.phrases kind)) formula
      (v.toList ++ ' ' :: (x ++ (mark ++ ' ' :: (l.toList ++ ' ' :: y)))) = formula x y := by
  obtain ⟨p, hp, hprefers⟩ := exists_prefers_verbPhrase hpack hapart hx hy hmark
    (fun _ hp => (hpack.template (Or.inl hp)).1) hverb
    (fun _ hp => (hpack.template (Or.inr hp)).1) hlink hv hl
  rw [hp]
  exact rewriteOperands_of_prefers hx hy formula (by simp) hprefers

theorem quantityPhrase_eq_formula (hmark : PercentMark pack mark) {o : String}
    (ho : o ∈ pack.words .ofWords) :
    rewriteOperands (Patterns.ofPack pack).ofQuantity formula
      (x ++ (mark ++ ' ' :: (o.toList ++ ' ' :: y))) = formula x y := by
  obtain ⟨p, hp, hprefers⟩ := exists_prefers_quantityPhrase hpack hapart hx hy hmark
    (fun _ hp => (hpack.words hp).1)
    (areDistinct_of_spelling hapart.distinct.2.2.2.2.1) ho
  rw [hp]
  exact rewriteOperands_of_prefers hx hy formula (by simp) hprefers

theorem signPhrase_eq_formula (hmark : PercentMark pack mark) {phrases : List String}
    (hproper : ∀ p ∈ phrases, IsProper p.toList) (hdistinct : AreDistinct phrases) {o : String}
    (ho : o ∈ phrases) :
    rewriteOperands (some (signPhrase (sign pack) (pattern phrases))) formula
      (x ++ ' ' :: (o.toList ++ ' ' :: (y ++ mark))) = formula x y :=
  rewriteOperands_of_prefers hx hy formula (by simp)
    (prefers_signPhrase hpack hapart hx hy hmark hproper hdistinct ho rfl)

end Reading

end CalcSpeech
