import CalcSpeech.Proofs.Point.Scales
import CalcSpeech.Proofs.ScaleNumber.Kept
import CalcSpeech.Proofs.Written.Scaled

/-!
# Chains of scaled numbers

In a row of scaled numbers with a last number behind them the sums take two scaled numbers at a
time: the second keeps its digits from being added to the first, and its scale word is read with
it. So the last number is added to the scaled number in front of it when their count is odd
(`scaleNumbers_chain_odd`), and stays as it is when it is even (`scaleNumbers_chain_even`).
-/

namespace CalcSpeech

open Unicode Pattern Vocabulary Text

/-- Digits and a scale word. -/
structure ScaledTerm where
  digits : List Char
  word : String
  power : Nat
  isDigits : IsPlainDigits digits
  isScale : (word, power) ∈ scaleWords

namespace ScaledTerm

/-- The number that is meant. -/
def value (t : ScaledTerm) : Nat := Nat.ofDigitChars 10 t.digits 0 * 10 ^ t.power

/-- The number that is meant, in digits. -/
def written (t : ScaledTerm) : List Char := Nat.toDigits 10 t.value

theorem written_isPlainDigits (t : ScaledTerm) : IsPlainDigits t.written :=
  isPlainDigits_toDigits _

theorem isScaleName (t : ScaledTerm) : t.word ∈ ScaleNumber.scaleNames :=
  List.mem_map_of_mem t.isScale

end ScaledTerm

variable (a : List Char)

/-- The words of a chain that ends in a number. -/
def chain : List ScaledTerm → List (List Char)
  | [] => [a]
  | t :: ts => t.digits :: t.word.toList :: chain ts

/-- A scaled number with a number behind it, added if the sum is not too large. -/
def summedEnd (t : ScaledTerm) : List (List Char) :=
  if t.value + Nat.ofDigitChars 10 a 0 < ScaleNumber.sumLimit then
    [Nat.toDigits 10 (t.value + Nat.ofDigitChars 10 a 0)]
  else [t.digits, t.word.toList, a]

/-- What the sums make of a chain: of two scaled numbers the first is written out. -/
def summedChain : List ScaledTerm → List (List Char)
  | [] => [a]
  | [t] => summedEnd a t
  | t :: u :: ts => t.written :: u.digits :: u.word.toList :: summedChain ts

/-- What is left of a chain when all scaled numbers are written out. -/
def writtenChain : List ScaledTerm → List (List Char)
  | [] => [a]
  | [t] =>
    if t.value + Nat.ofDigitChars 10 a 0 < ScaleNumber.sumLimit then
      [Nat.toDigits 10 (t.value + Nat.ofDigitChars 10 a 0)]
    else [t.written, a]
  | t :: u :: ts => t.written :: u.written :: writtenChain ts

variable {a}

theorem chain_ne_nil (ts : List ScaledTerm) : chain a ts ≠ [] := by
  cases ts <;> exact List.cons_ne_nil _ _

theorem summedChain_ne_nil (ts : List ScaledTerm) : summedChain a ts ≠ [] := by
  cases ts using summedChain.fun_cases with
  | case1 => exact List.cons_ne_nil _ _
  | case2 t => unfold summedChain summedEnd; split <;> exact List.cons_ne_nil _ _
  | case3 t u ts => exact List.cons_ne_nil _ _

theorem writtenChain_ne_nil (ts : List ScaledTerm) : writtenChain a ts ≠ [] := by
  cases ts using summedChain.fun_cases with
  | case1 => exact List.cons_ne_nil _ _
  | case2 t => unfold writtenChain; split <;> exact List.cons_ne_nil _ _
  | case3 t u ts => exact List.cons_ne_nil _ _

namespace ScaleNumber

theorem text_shift_digits (t : ScaledTerm) :
    ((⟨Nat.ofDigitChars 10 t.digits 0, 0⟩ : Decimal).shift t.power).text = t.written :=
  text_shift _ _

theorem value?_digits (mark : DecimalMark) (t : ScaledTerm) : value? mark t.digits t.word.toList =
    some ((⟨Nat.ofDigitChars 10 t.digits 0, 0⟩ : Decimal).shift t.power) :=
  value?_scale t.isScale (ofNumeral?_digits t.isDigits mark)

section Sums

variable {pack : LanguagePack} (hpack : pack ∈ builtinPacks)

include hpack

/-- No word for a percentage begins with a scale word. -/
theorem not_begins_percent {w : String} (hw : w ∈ scaleNames) {r : List Char}
    (hr : r.head?.any isWordCharacter = false) :
    ¬ Begins ("%" :: pack.words .percentage) (some ' ') (w.toList ++ r) := by
  have hapart := isApart_of_mem hpack
  refine not_begins_spoken (spoken_scaleNames w hw) behind_space hr fun p hp hspoken hsame => ?_
  rcases List.mem_cons.mp hp with rfl | hp
  · exact hspoken.ne_sign (c := '%') (by decide) rfl
  · have hfirst : firstWord p.toList ∈ pack.spelling.percentWords :=
      List.mem_flatMap.mpr ⟨_, List.mem_map_of_mem hp, hspoken.firstWord_mem⟩
    apply hapart.scale _ (List.mem_append_right _ hfirst)
    rw [hsame]
    exact List.mem_map_of_mem (List.mem_map_of_mem hw)

/-- A scale word behind a number is what the number is taken to belong to. -/
theorem prefers_scaleContinuation {w : String} (hw : w ∈ scaleNames) {b : Option Char}
    {r : List Char} (hr : r.head?.any isWordCharacter = false) :
    (continuation (PercentPhrase.sign pack)).Prefers b (' ' :: w.toList) r [] := by
  have hspace : ∀ c ∈ [' '], isBlank c = true := by decide
  have hproper : ∀ p ∈ "%" :: pack.words .percentage, IsProper p.toList :=
    List.forall_mem_cons.mpr ⟨Or.inr ⟨'%', by decide, rfl⟩, fun p hp =>
      ((isOrdinary_of_mem hpack).words hp).1⟩
  -- neither a slash nor a mark stands here, and no percentage
  refine Prefers.right (fun v a k htext hread => ?_) (Prefers.right (fun v a k htext hread => ?_)
    (Prefers.right (fun v a k htext hread => ?_) (Prefers.left ?_)))
  · have hslash : (just '/').Opens (· == '/') := opens_char
    have hhead := hslash _ _ _ _ hread
    rw [← htext] at hhead
    exact absurd hhead (by show ¬ (' ' == '/') = true; decide)
  · have hmark : (inOrder [Pattern.mark, asciiDigit]).Opens fun c => c == '.' || c == ',' :=
      opens_char.seq
    have hhead := hmark _ _ _ _ hread
    rw [← htext] at hhead
    exact absurd hhead (by show ¬ (' ' == '.' || ' ' == ',') = true; decide)
  · obtain ⟨g, v, _, _, rfl, -, hloose, hpercent⟩ := reads_inOrder_cons.mp hread
    have hbegins := (begins_of_finds hproper (reads_pattern.mp hpercent).2).1
    rw [List.append_assoc] at htext
    obtain ⟨rfl, hrow⟩ := eq_of_spans (u := [' ']) hspace (reads_many_char.mp hloose).1
      (scale_solid hw) hbegins.solid htext
    rw [← hrow] at hbegins
    exact not_begins_percent hpack hw hr hbegins
  · have hscale : (inOrder [scalePattern]).Prefers (behind b [' ']) w.toList r [] := by
      rw [inOrder]
      exact prefers_scalePattern hw behind_space hr
    exact (prefers_space (scale_solid hw)).seq hscale

variable (mark : DecimalMark)

/-- The sums take a scaled number together with the one behind it, and write the first. -/
theorem sums_pair (t u : ScaledTerm) {r : List Char} :
    (scaledSum (PercentPhrase.sign pack)).rewrite (rewriteSum mark)
      (t.digits ++ ' ' :: (t.word.toList ++ ' ' :: (u.digits ++ ' ' :: (u.word.toList ++
        ' ' :: r)))) =
      t.written ++ ' ' :: (u.digits ++ ' ' :: (u.word.toList ++
        ' ' :: (scaledSum (PercentPhrase.sign pack)).rewrite (rewriteSum mark) r)) := by
  have haddend : addend.Prefers (some ' ') u.digits (' ' :: u.word.toList ++ ' ' :: r) [] :=
    prefers_addend u.isDigits endsNumeral_space
  have hguard : (optional (group 4 (continuation (PercentPhrase.sign pack)))).Prefers
      (behind (some ' ') u.digits) (' ' :: u.word.toList) (' ' :: r)
      [(4, ' ' :: u.word.toList)] :=
    prefers_optional ((prefers_scaleContinuation hpack u.isScaleName head_space).group 4)
  have hrow := prefers_sumRow (.digits t.isDigits) t.isScaleName haddend u.isDigits.head hguard
    (b := none)
  have hfound := hrow.rewriteAfter_eq (by simp) (rewriteSum mark)
  have hwritten (text : List Char) : rewriteSum mark
      ⟨text, [(4, ' ' :: u.word.toList)] ++ [(3, u.digits), (2, t.word.toList), (1, t.digits)]⟩ =
        t.written ++ ' ' :: (u.digits ++ ' ' :: u.word.toList) := by
    rw [← text_shift_digits]
    exact rewriteSum_of_continued (m := ⟨text, [(4, ' ' :: u.word.toList), (3, u.digits),
      (2, t.word.toList), (1, t.digits)]⟩) (value?_digits mark t) rfl
  rw [rewriteAfter_space (opens_scaledSum _) (by decide), hwritten] at hfound
  rw [rewrite_eq_rewriteAfter]
  simpa using hfound

/-- The sums of a chain. -/
theorem sums_chain {a : List Char} (ha : IsPlainDigits a) (ts : List ScaledTerm) :
    (scaledSum (PercentPhrase.sign pack)).rewrite (rewriteSum mark) (join [' '] (chain a ts)) =
      join [' '] (summedChain a ts) := by
  induction ts using summedChain.induct with
  | case1 =>
    have hdigits : ∀ c ∈ a, isLetter c = false := fun c hc =>
      isLetter_of_isDecimalDigit (ha.isDigits.2 c hc)
    exact (scaledSum_needsAt_scale _).rewriteAfter (rewriteSum mark) (nowhere_scaleName hdigits)
  | case2 t =>
    have hrow : join [' '] (chain a [t]) =
        t.digits ++ ([' '] ++ (t.word.toList ++ ([' '] ++ a))) := by
      rw [chain, chain, join_cons_cons, join_cons_cons]
      rfl
    have hsums : (scaledSum (PercentPhrase.sign pack)).rewrite (rewriteSum mark)
        (join [' '] (chain a [t])) =
          if t.value + Nat.ofDigitChars 10 a 0 < sumLimit then
            Nat.toDigits 10 (t.value + Nat.ofDigitChars 10 a 0)
          else join [' '] (chain a [t]) := by
      rw [hrow]
      exact sums_whole t.isDigits ha t.isScale mark (needsAt_sign pack)
    rw [hsums, summedChain, summedEnd]
    by_cases hlimit : t.value + Nat.ofDigitChars 10 a 0 < sumLimit
    · rw [if_pos hlimit, if_pos hlimit]
      rfl
    · rw [if_neg hlimit, if_neg hlimit]
      rfl
  | case3 t u ts ih =>
    obtain ⟨x, xs, hrest⟩ := List.exists_cons_of_ne_nil (chain_ne_nil (a := a) ts)
    obtain ⟨y, ys, hsummed⟩ := List.exists_cons_of_ne_nil (summedChain_ne_nil (a := a) ts)
    rw [chain, chain, summedChain]
    simp only [hrest, hsummed, join_cons_cons] at ih ⊢
    rw [sums_pair hpack, ih]

end Sums

/-! ## Scaled numbers one by one -/

section Scaled

variable (mark : DecimalMark)

/-- A scaled number is written out, and reading goes on behind the space. -/
theorem scaled_term (t : ScaledTerm) (r : List Char) :
    scaled.rewrite (rewriteScaled mark) (t.digits ++ ' ' :: (t.word.toList ++ ' ' :: r)) =
      t.written ++ ' ' :: scaled.rewrite (rewriteScaled mark) r := by
  have hfront := scaled_front (.digits t.isDigits) t.isScale (ofNumeral?_digits t.isDigits mark) r
  rw [text_shift_digits] at hfront
  exact hfront

/-- Digits with digits behind the space are no scaled number. -/
theorem scaled_digits {ds r : List Char} (hds : IsPlainDigits ds)
    (hr : r.head?.any Char.isDigit = true) :
    scaled.rewrite (rewriteScaled mark) (ds ++ ' ' :: r) =
      ds ++ ' ' :: scaled.rewrite (rewriteScaled mark) r := by
  have hno : ¬ ScaleBehind (' ' :: r) := by
    rintro ⟨g, s, x, htext, ⟨-, hblank⟩, hfinds⟩
    have hspace : ∀ c ∈ [' '], isBlank c = true := by decide
    have hsolid : r.head?.any isBlank = false :=
      head_eq_false hr fun c hc => isBlank_of_isDecimalDigit (isDecimalDigit_of_isDigit hc)
    obtain ⟨-, rfl⟩ := eq_of_spans (u := [' ']) hspace hblank hsolid
      (begins_of_finds proper_scaleNames hfinds).1.solid htext
    obtain ⟨c, s, rfl⟩ := List.exists_cons_of_ne_nil (ne_nil_of_finds hfinds)
    have hletter : ∀ d ∈ [c], isLetter d = false :=
      List.forall_mem_singleton.mpr (isLetter_of_isDecimalDigit (isDecimalDigit_of_isDigit hr))
    exact nowhere_scaleName hletter [] c [] rfl ⟨c :: s, x, rfl, hfinds⟩
  have hquiet := opensAt_scaled.quiet (nowhere_scaled (b := none)
    (fun c hc => isBlank_of_isDecimalDigit (hds.isDigits.2 c hc)) rfl hno)
  rw [rewrite_eq_rewriteAfter, rewriteAfter_quiet _ hquiet,
    rewriteAfter_space opens_scaled (by decide)]

/-- Digits alone are no scaled number. -/
theorem scaled_plain {ds : List Char} (hds : IsPlainDigits ds) :
    scaled.rewrite (rewriteScaled mark) ds = ds :=
  scaled_needsAt_scale.rewriteAfter _ (nowhere_scaleName fun c hc =>
    isLetter_of_isDecimalDigit (hds.isDigits.2 c hc))

/-- What is left of the sums of a chain is written out. -/
theorem scaled_chain {a : List Char} (ha : IsPlainDigits a) (ts : List ScaledTerm) :
    scaled.rewrite (rewriteScaled mark) (join [' '] (summedChain a ts)) =
      join [' '] (writtenChain a ts) := by
  induction ts using summedChain.induct with
  | case1 => exact scaled_plain mark ha
  | case2 t =>
    rw [summedChain, summedEnd, writtenChain]
    split
    · exact scaled_plain mark (isPlainDigits_toDigits _)
    · rw [join_cons_cons, join_cons_cons, scaled_term, join_cons_cons]
      exact congrArg (fun r => t.written ++ ' ' :: r) (scaled_plain mark ha)
  | case3 t u ts ih =>
    obtain ⟨x, xs, hsummed⟩ := List.exists_cons_of_ne_nil (summedChain_ne_nil (a := a) ts)
    obtain ⟨y, ys, hwritten⟩ := List.exists_cons_of_ne_nil (writtenChain_ne_nil (a := a) ts)
    rw [summedChain, writtenChain]
    simp only [hsummed, hwritten, join_cons_cons] at ih ⊢
    rw [scaled_digits mark t.written_isPlainDigits, scaled_term, ih]
    obtain ⟨d, ds, hds⟩ := List.exists_cons_of_ne_nil u.isDigits.1
    rw [hds]
    exact u.isDigits.2 d (by rw [hds]; exact List.mem_cons_self)

end Scaled

end ScaleNumber

/-! ## The stage as a whole -/

section Stage

variable {pack : LanguagePack} (hpack : pack ∈ builtinPacks) {lexicon : Lexicon}
  (hlexicon : Lexicon.ofPack pack = .ok lexicon) {a : List Char} (ha : IsPlainDigits a)
  {ts : List ScaledTerm}

theorem writtenChain_append (hts : Even ts.length) (us : List ScaledTerm) :
    writtenChain a (ts ++ us) = ts.map (·.written) ++ writtenChain a us := by
  induction ts using summedChain.induct with
  | case1 => rfl
  | case2 t => exact absurd hts Nat.not_even_one
  | case3 t u ts ih =>
    have heven : Even ts.length := by
      obtain ⟨k, hk⟩ := hts
      simp only [List.length_cons] at hk
      exact ⟨k - 1, by omega⟩
    simp only [List.cons_append, List.map_cons, writtenChain, ih heven]

include hpack hlexicon ha

theorem scaleNumbers_chain (ts : List ScaledTerm) :
    Stage.scaleNumbers.rewrite lexicon (join [' '] (chain a ts)) =
      join [' '] (writtenChain a ts) := by
  have hof := Lexicon.isOf_of_ofPack hlexicon
  rw [Stage.rewrite, hof.scaledSum, hof.pack_eq, ScaleNumber.rewrite,
    ScaleNumber.sums_chain hpack _ ha, ScaleNumber.scaled_chain _ ha]

/-- Of an even number of scaled numbers the last number is kept apart. -/
theorem scaleNumbers_chain_even (hts : Even ts.length) :
    Stage.scaleNumbers.rewrite lexicon (join [' '] (chain a ts)) =
      join [' '] (ts.map (·.written) ++ [a]) := by
  have hwritten := writtenChain_append (a := a) hts []
  rw [List.append_nil] at hwritten
  rw [scaleNumbers_chain hpack hlexicon ha, hwritten]
  rfl

/-- Of an odd number of scaled numbers the last is added to the last number. -/
theorem scaleNumbers_chain_odd (hts : Even ts.length) (t : ScaledTerm)
    (hlimit : t.value + Nat.ofDigitChars 10 a 0 < 2 ^ 128) :
    Stage.scaleNumbers.rewrite lexicon (join [' '] (chain a (ts ++ [t]))) =
      join [' '] (ts.map (·.written) ++ [Nat.toDigits 10 (t.value + Nat.ofDigitChars 10 a 0)]) := by
  have hsum : t.value + Nat.ofDigitChars 10 a 0 < ScaleNumber.sumLimit := hlimit
  rw [scaleNumbers_chain hpack hlexicon ha, writtenChain_append hts, writtenChain, if_pos hsum]

end Stage

end CalcSpeech
