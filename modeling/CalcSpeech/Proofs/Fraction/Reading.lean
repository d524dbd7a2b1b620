import CalcSpeech.Proofs.Expression.Arithmetic
import CalcSpeech.Proofs.Expression.Leftover
import CalcSpeech.Proofs.Fraction.Phrases

/-!
# What rows of fractions come to

The stages in front of the fractions leave a row of fractions as it is, and those behind them drop
the words that are left in its reading, so a row that makes up a whole transcript comes to the
operands of its reading (`normalize_phrase`). Of more than one fraction two operands are left side
by side (`exists_operands`), and that is no expression (`not_denotes_join`).
-/

namespace CalcSpeech.FractionPhrase

open Unicode Pattern Vocabulary Text

/-! ## The parts of a phrase and of its reading -/

/-- A number, a fraction with a stroke, or a formula with what is left behind it. -/
structure IsOperand (t : List Char) : Prop where
  mem : ∀ c ∈ t, isDecimalDigit c = true ∨ c ∈ "()/* ".toList
  tidy : isTidyAfter false t = true
  begins : t.head?.any Expression.beginsOperand = true
  ends : t.getLast?.any Expression.endsOperand = true

section Operands

variable {t m n k : List Char}

theorem solid_of_digits {ds : List Char} (hds : IsPlainDigits ds) : ∀ c ∈ ds, isBlank c = false :=
  fun c hc => isBlank_of_isDecimalDigit (hds.isDigits.2 c hc)

theorem ends_append_digits {u : List Char} (hn : IsPlainDigits n) :
    (u ++ n).getLast?.any Expression.endsOperand = true := by
  rw [List.getLast?_append_of_ne_nil _ hn.1, List.getLast?_eq_some_getLast hn.1]
  show (_ || _) = true
  rw [hn.2 _ (List.getLast_mem hn.1), Bool.true_or]

theorem isOperand_of_digits (hm : IsPlainDigits m) : IsOperand m where
  mem c hc := Or.inl (hm.isDigits.2 c hc)
  tidy := by
    have htidy := isTidyAfter_of_solid hm.1 (solid_of_digits hm) [] false
    rwa [List.append_nil] at htidy
  begins := by
    obtain ⟨c, m, rfl⟩ := List.exists_cons_of_ne_nil hm.1
    have hc : c.isDigit = true := hm.2 c List.mem_cons_self
    show (c.isDigit || c == '.' || c == '(') = true
    rw [hc]
    rfl
  ends := ends_append_digits (u := []) hm

theorem IsOperand.stroke (ht : IsOperand t) (hn : IsPlainDigits n) :
    IsOperand (t ++ '/' :: n) where
  mem := by
    simp only [List.forall_mem_append, List.forall_mem_cons]
    exact ⟨ht.mem, Or.inr (by decide), fun c hc => Or.inl (hn.isDigits.2 c hc)⟩
  tidy := by
    have hsolid := isTidyAfter_of_solid (w := '/' :: n) (by simp)
      (List.forall_mem_cons.mpr ⟨by decide, solid_of_digits hn⟩) [] true
    rw [List.append_nil] at hsolid
    rw [isTidyAfter_append ht.tidy, hsolid, isTidyAfter]
  begins := by
    have hbegins := ht.begins
    cases t with
    | nil => exact absurd hbegins Bool.false_ne_true
    | cons => exact hbegins
  ends := by
    rw [List.append_cons]
    exact ends_append_digits hn

theorem isOperand_formula (hm : IsPlainDigits m) (hn : IsPlainDigits n) (hk : IsPlainDigits k) :
    IsOperand (formula m n k) where
  mem := by
    have hdigits {ds : List Char} (hds : IsPlainDigits ds) :
        ∀ c ∈ ds, isDecimalDigit c = true ∨ c ∈ "()/* ".toList :=
      fun c hc => Or.inl (hds.isDigits.2 c hc)
    simp only [formula, List.forall_mem_append, List.forall_mem_cons]
    exact ⟨⟨⟨⟨⟨by decide, hdigits hm⟩, by decide, hdigits hn⟩, by decide⟩, hdigits hk⟩, by decide,
      by simp⟩
  tidy := by
    have hjoin : formula m n k =
        join [' '] ["((".toList ++ m ++ '/' :: n ++ [')'], ['*'], k ++ [')']] := by
      simp [formula, join]
    rw [hjoin, isTidyAfter_join (List.cons_ne_nil _ _)]
    simp only [List.forall_mem_cons, List.not_mem_nil, false_imp_iff, implies_true, and_true,
      List.forall_mem_append]
    exact ⟨⟨by simp, ⟨⟨by decide, solid_of_digits hm⟩, by decide, solid_of_digits hn⟩, by decide⟩,
      by decide, by simp, solid_of_digits hk, by decide⟩
  begins := rfl
  ends := by
    rw [formula, List.getLast?_append_of_ne_nil _ (List.cons_ne_nil _ _)]
    rfl

theorem IsOperand.exists_cons (ht : IsOperand t) : ∃ c r, t = c :: r := by
  cases t with
  | nil => exact absurd ht.begins Bool.false_ne_true
  | cons c r => exact ⟨c, r, rfl⟩

theorem IsOperand.no_letter (ht : IsOperand t) : ∀ c ∈ t, isLetter c = false := by
  have hother : ∀ c ∈ "()/* ".toList, isLetter c = false := by decide
  exact fun c hc => (ht.mem c hc).elim isLetter_of_isDecimalDigit (hother c)

theorem IsOperand.operands_cons (ht : IsOperand t) (ts : List (List Char)) :
    Expression.operands (t :: ts) = t :: Expression.operands ts := by
  obtain ⟨c, r, rfl⟩ := ht.exists_cons
  exact Expression.operands_cons List.mem_cons_self (ht.no_letter c List.mem_cons_self)

end Operands

/-- A row that begins with an operand, and whose other parts are operands and words for
fractions. -/
inductive IsPhraseRow (pack : LanguagePack) : List (List Char) → Prop
  | intro {t ts} : IsOperand t → (∀ u ∈ ts, IsOperand u ∨ u ∈ pack.fractionSpelling.tokens) →
    IsPhraseRow pack (t :: ts)

theorem IsPhraseRow.mem {pack : LanguagePack} {ts : List (List Char)} (h : IsPhraseRow pack ts)
    {u : List Char} (hu : u ∈ ts) : IsOperand u ∨ u ∈ pack.fractionSpelling.tokens := by
  cases h with
  | intro ht hts => exact (List.mem_cons.mp hu).elim (fun h => Or.inl (h ▸ ht)) (hts u)

section Rows

variable {pack : LanguagePack} {o : String} (ho : o ∈ pack.words .ofWords) {q : List Char}
  (hq : IsPlainDigits q)

include ho

/-- A fraction in front of a row, with an operand in the place of its count. -/
theorem IsPhraseRow.tokens {ts : List (List Char)} (hts : IsPhraseRow pack ts) {f : Share}
    (hf : f.IsListed) {y : List Char} (hy : IsOperand y) :
    IsPhraseRow pack (f.tokens y ++ o.toList :: ts) := by
  have hof : o.toList ∈ pack.fractionSpelling.tokens :=
    List.mem_append_right _ (List.mem_map_of_mem ho)
  have hback : ∀ u ∈ o.toList :: ts, IsOperand u ∨ u ∈ pack.fractionSpelling.tokens :=
    List.forall_mem_cons.mpr ⟨Or.inr hof, fun u hu => hts.mem hu⟩
  cases f with
  | written m n => exact .intro (hy.stroke hf.2) hback
  | said m w d =>
    have hword : w.toList ∈ pack.fractionSpelling.tokens :=
      List.mem_append_left _ (List.mem_map_of_mem (List.mem_map_of_mem hf.2))
    exact .intro hy (List.forall_mem_cons.mpr ⟨Or.inr hword, hback⟩)

include hq

theorem isPhraseRow_phrase {fs : List Share} (hfs : ∀ f ∈ fs, f.IsListed) :
    IsPhraseRow pack (phrase o.toList q fs) := by
  induction fs with
  | nil => exact .intro (isOperand_of_digits hq) (by simp)
  | cons f fs ih =>
    obtain ⟨hf, hrest⟩ := List.forall_mem_cons.mp hfs
    exact (ih hrest).tokens ho hf (isOperand_of_digits hf.count_isPlainDigits)

theorem isPhraseRow_reading {fs : List Share} (hfs : ∀ f ∈ fs, f.IsListed) :
    IsPhraseRow pack (reading o.toList q fs) := by
  induction fs using reading.induct with
  | case1 => exact .intro (isOperand_of_digits hq) (by simp)
  | case2 f =>
    have hf := hfs _ List.mem_cons_self
    exact .intro (isOperand_formula hf.count_isPlainDigits hf.parts_isPlainDigits hq) (by simp)
  | case3 m w d k n fs ih =>
    obtain ⟨hf, hrest⟩ := List.forall_mem_cons.mp hfs
    exact (ih hrest).tokens ho hf (isOperand_of_digits hf.1)
  | case4 f g fs hne ih =>
    obtain ⟨hf, hg, hrest⟩ := by simpa only [List.forall_mem_cons] using hfs
    rw [reading]
    · exact (ih hrest).tokens ho hg (isOperand_formula hf.count_isPlainDigits
        hf.parts_isPlainDigits hg.count_isPlainDigits)
    · exact hne

end Rows

section Texts

variable {pack : LanguagePack} (hapart : pack.fractionSpelling.IsApart) {s : List Char}
  (hs : IsSign s) {ts : List (List Char)} (hts : IsPhraseRow pack ts)

include hapart hts

/-- What holds of digits, of letters, and of the other characters of formulas holds of all
characters of a row. -/
theorem forall_mem_join {P : Char → Prop} (hdigit : ∀ c, isDecimalDigit c = true → P c)
    (hletter : ∀ c, isSmallLatin c = true → P c) (hother : ∀ c ∈ "()/* ".toList, P c) :
    ∀ c ∈ join [' '] ts, P c := by
  intro c hc
  rcases mem_join hc with rfl | ⟨t, ht, hct⟩
  · exact hother ' ' (by decide)
  · rcases hts.mem ht with hoperand | hword
    · exact (hoperand.mem c hct).elim (hdigit c) (hother c)
    · exact hletter c ((hapart.small t hword).2 c hct)

include hs

theorem forall_mem_row {P : Char → Prop} (hdigit : ∀ c, isDecimalDigit c = true → P c)
    (hletter : ∀ c, isSmallLatin c = true → P c) (hother : ∀ c ∈ "-()/* ".toList, P c) :
    ∀ c ∈ s ++ join [' '] ts, P c := by
  refine List.forall_mem_append.mpr ⟨fun c hc => ?_, forall_mem_join hapart hts hdigit hletter ?_⟩
  · rw [hs.mem hc]
    exact hother '-' (by decide)
  · exact fun c hc => hother c (List.mem_cons_of_mem '-' hc)

/-- A row is in the form in which transcripts are read. -/
theorem prepare_row : Transcript.prepare (s ++ join [' '] ts) = s ++ join [' '] ts := by
  have hsteady : ∀ c ∈ s ++ join [' '] ts, Steady c ∧ Transcript.plainDash c = id c := by
    have hother : ∀ c ∈ "-()/* ".toList, c.toNat < 0x80 ∧ c.toLower = c ∧
        Transcript.plainDash c = c := by decide
    refine forall_mem_row hapart hs hts (fun c hc => ?_) (fun c hc => ?_) fun c hc => ?_
    · exact (Transcript.steady_of_plainSpoken
        (Or.inl (Transcript.isPlainSpoken_iff.mpr (Or.inl hc)))).imp_right And.left
    · exact (Transcript.steady_of_plainSpoken
        (Or.inl (Transcript.isPlainSpoken_iff.mpr (Or.inr (Or.inl hc))))).imp_right And.left
    · obtain ⟨hlow, hlower, hdash⟩ := hother c hc
      exact ⟨steady_of_lt hlow hlower, hdash⟩
  have hhyphen : '-' ∉ join [' '] ts := fun hmem =>
    forall_mem_join hapart hts (P := (· ≠ '-')) (by rintro c hc rfl; exact absurd hc (by decide))
      (by rintro c hc rfl; exact absurd hc (by decide)) (by decide) _ hmem rfl
  have hrest (before : Option Char) :
      Transcript.splitAtHyphens before (join [' '] ts) = join [' '] ts := by
    have h := Transcript.splitAtHyphens_append hhyphen before []
    rw [List.append_nil] at h
    exact h.trans (List.append_nil _)
  rw [Transcript.prepare, lowercase_composed_of_steady fun c hc => (hsteady c hc).1,
    List.map_congr_left fun c hc => (hsteady c hc).2, List.map_id]
  -- at the beginning of a transcript a hyphen joins nothing
  rcases hs with rfl | rfl
  · exact hrest none
  · show (if _ then _ else '-') :: Transcript.splitAtHyphens (some '-') (join [' '] ts) = _
    rw [hrest, if_neg (by simp)]
    rfl

/-- The first operand of a row takes the sign in front of it, and what the row is made of is left
over. -/
theorem exists_leftover : ∃ us, (∀ u ∈ us, IsLeftover pack u) ∧
    s ++ join [' '] ts = join [' '] us ∧
    s ++ join [' '] (Expression.operands ts) = join [' '] (Expression.operands us) := by
  have hoperand {u : List Char} (hu : IsOperand u) : IsLeftover pack u :=
    .operand (by obtain ⟨c, r, rfl⟩ := hu.exists_cons; simp) (by rw [isTidy, hu.tidy, Bool.or_true])
      fun c hc => (hu.mem c hc).imp_right (List.mem_cons_of_mem '-')
  have hsigned {u : List Char} (hu : IsOperand u) : IsLeftover pack (s ++ u) := by
    obtain ⟨c, r, hcons⟩ := hu.exists_cons
    refine .operand (by simp [hcons]) ?_ (List.forall_mem_append.mpr ⟨?_, ?_⟩)
    · rw [isTidy, Bool.or_eq_true]
      rcases hs with rfl | rfl
      · exact Or.inr hu.tidy
      · exact Or.inr (isTidyAfter_of_tidyAfter hu.tidy)
    · exact fun c hc => Or.inr (by rw [hs.mem hc]; decide)
    · exact fun c hc => (hu.mem c hc).imp_right (List.mem_cons_of_mem '-')
  obtain @⟨t, ts, ht, hts⟩ := hts
  obtain ⟨c, r, hcons⟩ := ht.exists_cons
  have hc : c ∈ t := by simp [hcons]
  refine ⟨(s ++ t) :: ts, List.forall_mem_cons.mpr ⟨hsigned ht, fun u hu => ?_⟩,
    append_join s t ts, ?_⟩
  · exact (hts u hu).elim hoperand fun hword => .stray (hapart.strayWord hword)
  · rw [ht.operands_cons, append_join,
      Expression.operands_cons (List.mem_append_right s hc) (ht.no_letter c hc)]

end Texts

section Phrases

variable {pack : LanguagePack} (hpack : pack ∈ builtinPacks) {o : String}
  (ho : o ∈ pack.words .ofWords) {q : List Char} (hq : IsPlainDigits q) {fs : List Share}
  (hfs : ∀ f ∈ fs, f.IsListed) {lexicon : Lexicon} (hof : lexicon.IsOf pack) {s : List Char}
  (hs : IsSign s)

include hpack ho hq hfs hof hs

/-- A row of fractions that makes up a whole transcript comes to the operands of its reading. -/
theorem normalize_phrase (hlength : (s ++ join [' '] (phrase o.toList q fs)).length ≤ 1000) :
    lexicon.normalize (s ++ join [' '] (phrase o.toList q fs)) =
      s ++ join [' '] (Expression.operands (reading o.toList q fs)) := by
  have hfractions := fractionsApart_of_mem hpack
  have hphrase := isPhraseRow_phrase ho hq hfs
  have hstages : Stage.all = [.numberWords, .scaleNumbers] ++ ([.fractions] ++
      [.numeralMarks, .percentages, .operators, .cleanup]) := rfl
  have hordinary := isOrdinary_of_mem hpack
  obtain ⟨us, hus, hrow, -⟩ := exists_leftover hfractions hs hphrase
  obtain ⟨vs, hvs, hread, hleft⟩ := exists_leftover hfractions hs (isPhraseRow_reading ho hq hfs)
  rw [lexicon.normalize_of_short hlength, prepare_row hfractions hs hphrase, hstages,
    Stage.rewriteAll_append, hrow, rewriteAll_unread hus hordinary hof, ← hrow,
    Stage.rewriteAll_append]
  show Stage.rewriteAll _ lexicon (rewrite lexicon.numericFraction lexicon.spokenFraction _) = _
  rw [fractions_phrase hordinary (isApart_of_mem hpack) ho hq hof hs hfs, hread,
    rewriteAll_leftover hvs hordinary hof, ← hleft]

end Phrases

/-! ## Operands side by side -/

section Neighbours

variable {pack : LanguagePack} (hapart : pack.fractionSpelling.IsApart) {o : String}
  (ho : o ∈ pack.words .ofWords)

include hapart ho

/-- Of a fraction in front of a row its first part is left. -/
theorem exists_operands_tokens {f : Share} (hf : f.IsListed) {y : List Char} (hy : IsOperand y)
    (ts : List (List Char)) : ∃ x, IsOperand x ∧
      Expression.operands (f.tokens y ++ o.toList :: ts) = x :: Expression.operands ts := by
  have hword {t : List Char} (ht : t ∈ pack.fractionSpelling.tokens) :
      ∀ c ∈ t, isLetter c = true :=
    fun c hc => isLetter_of_isSmallLatin ((hapart.small t ht).2 c hc)
  have hof : Expression.operands (o.toList :: ts) = Expression.operands ts :=
    Expression.operands_word (hword (List.mem_append_right _ (List.mem_map_of_mem ho)))
  cases f with
  | written m n => exact ⟨_, hy.stroke hf.2, ((hy.stroke hf.2).operands_cons _).trans
      (congrArg (List.cons _) hof)⟩
  | said m w d =>
    have hdrop : Expression.operands (w.toList :: o.toList :: ts) = Expression.operands ts :=
      (Expression.operands_word (hword
        (List.mem_append_left _ (List.mem_map_of_mem (List.mem_map_of_mem hf.2))))).trans hof
    exact ⟨y, hy, (hy.operands_cons _).trans (congrArg (List.cons y) hdrop)⟩

/-- Of two or more fractions at least two operands are left. -/
theorem exists_operands {q : List Char} (hq : IsPlainDigits q) {fs : List Share}
    (hfs : ∀ f ∈ fs, f.IsListed) (hcount : 2 ≤ fs.length) :
    ∃ x y us, Expression.operands (reading o.toList q fs) = x :: y :: us ∧ IsOperand x ∧
      IsOperand y := by
  have hrest {f : Share} (hf : f.IsListed) {z : List Char} (hz : IsOperand z) {fs : List Share}
      (hfs : ∀ f ∈ fs, f.IsListed) : ∃ x y us, Expression.operands
        (f.tokens z ++ o.toList :: reading o.toList q fs) = x :: y :: us ∧ IsOperand x ∧
          IsOperand y := by
    obtain ⟨x, hx, hfirst⟩ := exists_operands_tokens hapart ho hf hz (reading o.toList q fs)
    have hrow := isPhraseRow_reading ho hq hfs
    generalize reading o.toList q fs = ts at hfirst hrow
    cases hrow with
    | intro hy => exact ⟨x, _, _, hfirst.trans (by rw [hy.operands_cons]), hx, hy⟩
  cases fs using reading.fun_cases with
  | case1 => exact absurd hcount (by decide)
  | case2 f => exact absurd hcount (by simp)
  | case3 m w d k n fs =>
    obtain ⟨hf, hrow⟩ := List.forall_mem_cons.mp hfs
    exact hrest hf (isOperand_of_digits hf.1) hrow
  | case4 f g fs hne =>
    obtain ⟨hf, hg, hrow⟩ := by simpa only [List.forall_mem_cons] using hfs
    rw [reading]
    · exact hrest hg (isOperand_formula hf.count_isPlainDigits hf.parts_isPlainDigits
        hg.count_isPlainDigits) hrow
    · exact hne

omit hapart ho in
/-- Two operands side by side make no expression. -/
theorem not_denotes_join {s x y : List Char} {us : List (List Char)} (hx : IsOperand x)
    (hy : IsOperand y) (l : Expression.Level) (z : ℚ) :
    ¬ Expression.Denotes l (s ++ join [' '] (x :: y :: us)) z := by
  intro h
  rw [append_join, join_cons_cons] at h
  refine h.nowhere_neighbours (b := none) (a := []) rfl rfl (s ++ x) ' ' _ rfl ⟨?_, _, rfl, ?_⟩
  · obtain ⟨c, r, hcons⟩ := hx.exists_cons
    have hne : x ≠ [] := by simp [hcons]
    have hends := hx.ends
    rw [List.getLast?_eq_some_getLast hne] at hends
    rw [behind_append, behind_of_ne_nil _ hne]
    exact hends
  · obtain ⟨c, r, rfl⟩ := hy.exists_cons
    have hbegins : Expression.beginsOperand c = true := hy.begins
    have hspace : c ≠ ' ' := by
      rintro rfl
      exact absurd hbegins (by decide)
    have hhead : ∃ r', join [' '] ((c :: r) :: us) = c :: r' := by
      cases us <;> exact ⟨_, rfl⟩
    obtain ⟨r', hhead⟩ := hhead
    rw [hhead]
    show ((c :: (r' ++ [])).dropWhile (· == ' ')).head?.any Expression.beginsOperand = true
    rw [List.dropWhile_cons_of_neg (by simpa using hspace)]
    exact hbegins

end Neighbours

end CalcSpeech.FractionPhrase
