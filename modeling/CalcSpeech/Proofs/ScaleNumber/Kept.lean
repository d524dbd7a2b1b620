import CalcSpeech.Proofs.Pattern.Context
import CalcSpeech.Proofs.ScaleNumber
import CalcSpeech.Stage

/-!
# A second number that belongs to something else

A number behind a scale word is kept apart when what follows makes it part of a fraction, of a
percentage or of a decimal. If no scale word stands from there on, only the number in front of the
scale word is rewritten (`rewrite_continued`, `scaleNumbers_kept`).
-/

namespace CalcSpeech

open Unicode Pattern Vocabulary

namespace ScaleNumber

/-! ## Where a scale word may stand -/

theorem needsAt_scale : (group 2 scalePattern).NeedsAt (FoundAt scaleNames) :=
  (needsAt_found scaleNames).group 2

/-- There is no scaled number without a place where a scale word is found. -/
theorem scaled_needsAt_scale : scaled.NeedsAt (FoundAt scaleNames) :=
  needsAt_inOrder (by simp) needsAt_scale

theorem scaledSum_needsAt_scale (percent : Pattern) :
    (scaledSum percent).NeedsAt (FoundAt scaleNames) :=
  needsAt_inOrder (by simp) needsAt_scale

/-- Without letters there is no scale word. -/
theorem nowhere_scaleName {b : Option Char} {u a : List Char} (hu : ∀ c ∈ u, isLetter c = false) :
    Nowhere (FoundAt scaleNames) b u a := by
  refine (nowhere_head (f := isLetter) hu).mono fun b r hfound => ?_
  obtain ⟨w, hw, ⟨hspoken, hword⟩ | ⟨c, hc, hsign, -⟩⟩ :=
    begins_of_foundAt proper_scaleNames hfound
  · exact hword.head hspoken.isWord
  · exact absurd hsign ((spoken_scaleNames w hw).ne_sign hc)

/-! ## What a number may be continued by -/

section Continuation

variable {phrases : List String} {b : Option Char} {w a : List Char} {k : List (Nat × List Char)}

/-- Nothing is kept of what continues a number. -/
theorem kept_of_continuation (h : (continuation (pattern phrases)).Reads b w a k) : k = [] := by
  have hpair {first : Pattern} (hfirst : first.groupIndices = []) {ps : List String}
      {k : List (Nat × List Char)} (h : (inOrder [first, pattern ps]).Reads b w a k) : k = [] := by
    obtain ⟨u, v, ku, kv, -, rfl, hu, hv⟩ := reads_inOrder_cons.mp h
    rw [hu.kept_eq_nil hfirst, (reads_pattern.mp hv).1]
    rfl
  obtain ⟨p, hp, hread⟩ := reads_oneOf.mp h
  simp only [List.mem_cons, List.not_mem_nil, or_false] at hp
  rcases hp with rfl | rfl | rfl | rfl | rfl
  · exact hread.kept_eq_nil rfl
  · exact hread.kept_eq_nil rfl
  · exact hpair rfl hread
  · exact hpair rfl hread
  · exact hpair rfl hread

end Continuation

section Kept

variable {n : List Char} (hn : IsMarked n) {s : String × Nat} (hs : s ∈ scaleWords)
  {mark : DecimalMark} {d : Decimal} (hd : Decimal.ofNumeral? mark n = some d)
  {phrases : List String}

include hn hs hd

/-- A number that is continued is kept apart, and so is all that follows it. -/
theorem rewrite_continued {u v a : List Char} {k : List (Nat × List Char)}
    (hu : addend.Prefers (some ' ') u (v ++ a) []) (hdigit : u.head?.any Char.isDigit = true)
    (hv : (continuation (pattern phrases)).Reads (behind (some ' ') u) v a k)
    (hquiet : Nowhere (FoundAt scaleNames) (some ' ') (u ++ (v ++ a)) []) :
    ScaleNumber.rewrite mark (scaledSum (pattern phrases))
      (n ++ ([' '] ++ (s.1.toList ++ ([' '] ++ (u ++ (v ++ a)))))) =
        (d.shift s.2).text ++ ' ' :: (u ++ (v ++ a)) := by
  -- which continuation is preferred makes no difference
  obtain ⟨v, a, l, hsplit, hread, hprefers⟩ := exists_prefers hv
  obtain rfl := kept_of_continuation hread
  rw [hsplit] at hu hquiet ⊢
  have hrow := prefers_sumRow hn (List.mem_map_of_mem hs) hu hdigit
    (prefers_optional (hprefers.group 4)) (b := none)
  have hfound := hrow.rewriteAfter_eq (by simp) (rewriteSum mark)
  have hwritten (text : List Char) :
      rewriteSum mark ⟨text, [(4, v)] ++ [(3, u), (2, s.1.toList), (1, n)]⟩ =
        (d.shift s.2).text ++ ' ' :: (u ++ v) :=
    rewriteSum_of_continued (m := ⟨text, [(4, v), (3, u), (2, s.1.toList), (1, n)]⟩)
      (value?_scale hs hd) rfl
  have hrest : Nowhere (FoundAt scaleNames) (behind (some ' ') (u ++ v)) a [] := by
    rw [← List.append_assoc] at hquiet
    exact (nowhere_append.mp hquiet).2
  have hsums : (scaledSum (pattern phrases)).rewrite (rewriteSum mark)
      (n ++ ([' '] ++ (s.1.toList ++ ([' '] ++ (u ++ (v ++ a)))))) =
        (d.shift s.2).text ++ ' ' :: (u ++ (v ++ a)) := by
    have hbehind : behind none (n ++ ([' '] ++ (s.1.toList ++ ([' '] ++ (u ++ v))))) =
        behind (some ' ') (u ++ v) := by simp
    rw [hwritten, hbehind, (scaledSum_needsAt_scale _).rewriteAfter _ hrest] at hfound
    rw [rewrite_eq_rewriteAfter]
    simpa using hfound
  have hnone : Nowhere (FoundAt scaleNames) none
      ((d.shift s.2).text ++ ([' '] ++ (u ++ (v ++ a)))) [] := by
    have htext : ∀ c ∈ (d.shift s.2).text, isLetter c = false :=
      (d.shift s.2).hasValue_text.forall_eq_false (by decide)
        fun _ => isLetter_of_isDecimalDigit
    refine nowhere_append.mpr ⟨nowhere_scaleName htext, nowhere_append.mpr ⟨?_, ?_⟩⟩
    · exact nowhere_scaleName (by decide)
    · exact hquiet
  unfold ScaleNumber.rewrite
  rw [hsums, rewrite_eq_rewriteAfter]
  exact scaled_needsAt_scale.rewriteAfter (rewriteScaled mark) hnone

end Kept

end ScaleNumber

/-! ## Slashes, percentages and fraction words -/

/-- What makes the number in front of it part of something else: a slash, a percent sign or a word
for it, or a fraction word. -/
inductive IsContinuation (pack : LanguagePack) (before : Option Char) : List Char → Prop
  | slash (r) : IsContinuation pack before ('/' :: r)
  | percent {g w r} : (∀ c ∈ g, isBlank c = true) →
      Finds ("%" :: pack.words .percentage) (behind before g) w r →
      IsContinuation pack before (g ++ (w ++ r))
  | fractionWord {g w r} : g ≠ [] → (∀ c ∈ g, isBlank c = true) →
      Finds (fractionWords.map (·.1)) (behind before g) w r →
      IsContinuation pack before (g ++ (w ++ r))

theorem IsContinuation.exists_reads {pack : LanguagePack} {b : Option Char} {x : List Char}
    (h : IsContinuation pack b x) :
    ∃ v a, x = v ++ a ∧
      (ScaleNumber.continuation (PercentPhrase.sign pack)).Reads b v a [] := by
  have hpair {first : Pattern} {phrases : List String} {g w r : List Char}
      (hg : first.Reads b g (w ++ r) []) (hw : Finds phrases (behind b g) w r) :
      (inOrder [first, pattern phrases]).Reads b (g ++ w) r [] :=
    .seq hg (reads_pattern.mpr ⟨rfl, hw⟩)
  cases h with
  | slash r => exact ⟨['/'], r, rfl, .left (.char rfl)⟩
  | @percent g w r hblank hw =>
    have hloose : loose.Reads b g (w ++ r) [] := reads_many_char.mpr ⟨hblank, rfl⟩
    exact ⟨g ++ w, r, by simp, .right (.right (.left (hpair hloose hw)))⟩
  | @fractionWord g w r hne hblank hw =>
    have hgap : gap.Reads b g (w ++ r) [] := reads_gap.mpr ⟨hne, hblank, rfl⟩
    exact ⟨g ++ w, r, by simp, .right (.right (.right (.right (hpair hgap hw))))⟩

/-- In front of a slash, a percentage or a fraction word a number is not added to a scaled one. -/
theorem scaleNumbers_kept {pack : LanguagePack} {lexicon : Lexicon}
    (hlexicon : Lexicon.ofPack pack = .ok lexicon) {n : List Char} (hn : IsMarked n)
    {s : String × Nat} (hs : s ∈ scaleWords) {d : Decimal}
    (hd : Decimal.ofNumeral? pack.decimalMark n = some d) {ds x : List Char}
    (hds : IsPlainDigits ds) (hx : ScaleNumber.EndsNumeral x)
    (hcontinued : IsContinuation pack (behind none ds) x)
    (hquiet : Nowhere (FoundAt ScaleNumber.scaleNames) (behind none ds) x []) :
    Stage.scaleNumbers.rewrite lexicon (n ++ ([' '] ++ (s.1.toList ++ ([' '] ++ (ds ++ x))))) =
      (d.shift s.2).text ++ ' ' :: (ds ++ x) := by
  have hof := Lexicon.isOf_of_ofPack hlexicon
  obtain ⟨v, a, rfl, hread⟩ := hcontinued.exists_reads
  have hletter : ∀ c ∈ ds, isLetter c = false := fun c hc =>
    isLetter_of_isDecimalDigit (hds.isDigits.2 c hc)
  rw [behind_congr hds.1 none (some ' ')] at hread hquiet
  rw [Stage.rewrite, hof.scaledSum, hof.pack_eq]
  exact ScaleNumber.rewrite_continued hn hs hd (ScaleNumber.prefers_addend hds hx) hds.head hread
    (nowhere_append.mpr ⟨ScaleNumber.nowhere_scaleName hletter, hquiet⟩)

end CalcSpeech
