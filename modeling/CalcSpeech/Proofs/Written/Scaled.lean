import CalcSpeech.Proofs.Operator.Signs
import CalcSpeech.Proofs.Written.Leading
import CalcSpeech.Proofs.Written.Value
import Mathlib.Tactic.NormNum

/-!
# Written numerals with a scale word

Behind a written numeral a scale word multiplies its value by a power of ten. What the scale words
see is the numeral as it was written, so that its marks have to be those of the language for both
to take it for the same number (`normalize_scaled`).
-/

namespace CalcSpeech

open Unicode Pattern Vocabulary Text NumeralMark ScaleNumber

/-! ## Numerals that begin with a digit -/

theorem HasValue.isWritten {n : List Char} {x : ℚ} (h : HasValue n x)
    (hhead : n.head?.any Char.isDigit = true) : IsWritten n := by
  refine ⟨fun c hc => (h.mem hc).imp_right Or.inl, hhead, ?_⟩
  have hlast {ds : List Char} (hds : IsPlainDigits ds) : ds.getLast?.any Char.isDigit = true := by
    rw [List.getLast?_eq_some_getLast hds.1]
    exact hds.2 _ (List.getLast_mem hds.1)
  cases h with
  | whole hds => exact hlast hds
  | @decimal ds es _ hes =>
    rw [List.append_cons ds '.' es]
    exact any_getLast?_append (hlast hes) _

theorem HasValue.isNumeral {n : List Char} {x : ℚ} (h : HasValue n x)
    (hhead : n.head?.any Char.isDigit = true) : IsNumeral n := by
  cases h with
  | whole hds => exact .whole hds.isDigits
  | @decimal ds es hds hes =>
    refine .decimal (IsPlainDigits.isDigits ⟨?_, hds⟩) hes.isDigits
    rintro rfl
    have hpoint : Char.isDigit '.' = true := hhead
    exact absurd hpoint (by decide)

/-! ## In front of the scale word -/

/-- Scaled numbers behind some commas are read as if these were not there. -/
theorem scaleNumbers_commas {cs : List Char} (hcs : ∀ c ∈ cs, c = ',') (mark : DecimalMark)
    (percent : Pattern) (text : List Char) :
    ScaleNumber.rewrite mark (scaledSum percent) (cs ++ text) =
      cs ++ ScaleNumber.rewrite mark (scaledSum percent) text := by
  unfold ScaleNumber.rewrite
  rw [rewrite_commas hcs ((opens_scaledSum percent).mono fun _ _ => any_isDecimalDigit),
    rewrite_commas hcs (opens_scaled.mono fun _ _ => any_isDecimalDigit)]

theorem numeric_commas {cs t : List Char} (hcs : ∀ c ∈ cs, c = ',') (ht : AreNumeric t) :
    AreNumeric (cs ++ t) := by
  intro c hc
  rcases List.mem_append.mp hc with hc | hc
  · exact Or.inr (Or.inr (hcs c hc))
  · exact ht c hc

theorem isPlainSpoken_of_numeric {u : List Char} (hu : AreNumeric u) :
    ∀ c ∈ u, Transcript.isPlainSpoken c = true ∨ c = ',' := by
  intro c hc
  rcases hu c hc with hdigit | rfl | rfl
  · exact Or.inl (Transcript.isPlainSpoken_iff.mpr (Or.inl (isDecimalDigit_of_isDigit hdigit)))
  · exact Or.inl (by decide)
  · exact Or.inr rfl

section Words

variable {pack : LanguagePack} (hpack : pack.IsOrdinary) (hapart : pack.spelling.IsApart)
  {lexicon : Lexicon} (hof : lexicon.IsOf pack) {u : List Char} (hu : AreNumeric u) {w : String}
  (hw : w ∈ scaleNames)

include hapart hw in
theorem spoken_scaleName : IsSpoken w.toList := hapart.spoken_scale (List.mem_map_of_mem hw)

include hu in
/-- A number is read as it is. -/
theorem prepare_numeric : Transcript.prepare u = u :=
  Transcript.prepare_of_plainSpoken (isPlainSpoken_of_numeric hu)

include hapart hu hw in
/-- A number with a scale word is read as it is. -/
theorem prepare_scaled :
    Transcript.prepare (u ++ ([' '] ++ w.toList)) = u ++ ([' '] ++ w.toList) := by
  apply Transcript.prepare_of_plainSpoken
  have hspace : Transcript.isPlainSpoken ' ' = true := by decide
  intro c hc
  rcases List.mem_append.mp hc with hc | hc
  · exact isPlainSpoken_of_numeric hu c hc
  · rcases List.mem_append.mp hc with hc | hc
    · rw [List.mem_singleton.mp hc]
      exact Or.inl hspace
    · rcases (spoken_scaleName hapart hw).mem hc with rfl | hletter
      · exact Or.inl hspace
      · exact Or.inl (Transcript.isPlainSpoken_iff.mpr (Or.inr (Or.inl hletter)))

include hpack hapart hof hu hw

/-- A scale word is not looked into for number words, and what stands behind it has none. -/
theorem numberWords_scaled {a : List Char} (ha : IsTail a)
    (hno : ∀ b, Nowhere (Begins (NumberWord.numberNames pack)) b a []) :
    NumberWord.rewrite lexicon.numberWords (u ++ ([' '] ++ (w.toList ++ a))) =
      u ++ ([' '] ++ (w.toList ++ a)) := by
  have hend : a.head?.any isWordCharacter = false := ha.head (by decide)
  have hmem : w.toList ∈ pack.spelling.scales := List.mem_map_of_mem hw
  have hspoken := spoken_scaleName hapart hw
  have hletters : ∀ c ∈ u ++ [' '], isLetter c = false := by
    intro c hc
    rcases List.mem_append.mp hc with hc | hc
    · rcases hu c hc with hdigit | rfl | rfl
      · exact isLetter_of_isDecimalDigit (isDecimalDigit_of_isDigit hdigit)
      · decide
      · decide
    · rw [List.mem_singleton.mp hc]
      decide
  have hfront {phrases : List String} (hspokens : ∀ q ∈ phrases, IsSpoken q.toList) {a : List Char} :
      Nowhere (Begins phrases) none (u ++ [' ']) a :=
    nowhere_begins_of_spoken hspokens fun q hq =>
      nowhere_word_of_no_letter (hspokens q hq).isWord hletters
  have hbehind : behind none (u ++ [' ']) = some ' ' := by
    rw [behind_append]
    rfl
  have hnumbers : ∀ q ∈ NumberWord.numberNames pack, IsSpoken q.toList :=
    fun q hq => (NumberWord.mem_spelling_numbers hapart hq).2
  apply NumberWord.rewrite_eq_self hof.numberWords
  intro reader
  rw [rewrite_eq_rewriteAfter, ← List.append_assoc]
  -- a single word begins no number word; more than one word is a protected phrase
  rcases hapart.scale_number _ hmem with ⟨hsingle, hnumber⟩ | ⟨hmore, hlong⟩
  · apply NumberWord.rewriteRun_eq_self hpack
    refine nowhere_append.mpr ⟨hfront hnumbers, nowhere_append.mpr ⟨?_, hno _⟩⟩
    rw [hbehind, List.append_nil]
    refine nowhere_begins_of_spoken hnumbers fun q hq => ?_
    have hfirst : firstWord w.toList = w.toList := by rw [firstWord, hsingle]; rfl
    refine nowhere_token (hnumbers q hq).isWord (Or.inl ?_) ?_ hend
    · rw [← hfirst]
      exact hspoken.isWord.2
    · intro hsame
      exact hnumber (hsame ▸ List.mem_map_of_mem (NumberWord.mem_spelling_numbers hapart hq).1)
  · exact NumberWord.rewriteRun_protected hapart hpack reader
      (NumberWord.mem_protectedPhrases hspoken (Or.inr hw) hmore) hlong
      ((hfront fun q hq => (NumberWord.mem_spelling_guarded hapart hq).2).or (hfront hnumbers))
      (by rw [hbehind]; exact behind_space) hend (hno _)

end Words

/-! ## With the scale word and without it -/

section Normalize

variable {pack : LanguagePack} (hpack : pack ∈ builtinPacks) {lexicon : Lexicon}
  (hof : lexicon.IsOf pack) {cs t : List Char} (hcs : ∀ c ∈ cs, c = ',')

include hpack hof hcs

/-- What is left of a written numeral that stands alone. -/
theorem normalize_written (ht : IsWritten t) (hlength : (cs ++ t).length ≤ 1000) :
    lexicon.normalize (cs ++ t) =
      collapse ((NumeralMark.rewrite pack.decimalMark (spokenPoint? pack) t).map blankComma) := by
  have hordinary := isOrdinary_of_mem hpack
  have hnumeric := numeric_commas hcs ht.numeric
  have hsilent := silent_of_numeric hnumeric
  have hfirst : Stage.rewriteAll [.numberWords, .scaleNumbers] lexicon (cs ++ t) = cs ++ t := by
    simp only [Stage.rewriteAll, List.foldl_cons, List.foldl_nil, Stage.rewrite]
    rw [numberWords_of_silent hordinary hof hsilent, hof.scaledSum,
      scaleNumbers_of_silent _ _ hsilent]
  rw [lexicon.normalize_of_short hlength, prepare_numeric hnumeric, ← rewriteAll_written hordinary hof hcs ht]
  show Stage.rewriteAll ([.numberWords, .scaleNumbers] ++
    [.fractions, .numeralMarks, .percentages, .operators, .cleanup]) lexicon _ = _
  rw [Stage.rewriteAll_append, hfirst]

/-- A numeral that is read as a decimal is written with a scale word as the decimal times its power
of ten. -/
theorem normalize_marked (ht : IsMarked t) {d : Decimal}
    (hd : Decimal.ofNumeral? pack.decimalMark t = some d) {s : String × Nat} (hs : s ∈ scaleWords)
    (hlength : (cs ++ (t ++ ([' '] ++ s.1.toList))).length ≤ 1000) :
    lexicon.normalize (cs ++ (t ++ ([' '] ++ s.1.toList))) = (d.shift s.2).text := by
  have hordinary := isOrdinary_of_mem hpack
  have hapart := isApart_of_mem hpack
  have hname : s.1 ∈ scaleNames := List.mem_map_of_mem hs
  have hnumeric := numeric_commas hcs fun c hc => ht.mem hc
  have htext := (d.shift s.2).hasValue_text
  have hhead := (d.shift s.2).head_text
  have hwritten := htext.isWritten hhead
  have hwords := numberWords_scaled hordinary hapart hof hnumeric hname (Or.inl rfl)
    fun b => nowhere_nil _ b []
  rw [List.append_nil] at hwords
  have hfirst : Stage.rewriteAll [.numberWords, .scaleNumbers] lexicon
      (cs ++ t ++ ([' '] ++ s.1.toList)) = cs ++ (d.shift s.2).text := by
    simp only [Stage.rewriteAll, List.foldl_cons, List.foldl_nil, Stage.rewrite]
    rw [hwords, hof.scaledSum, hof.pack_eq,
      List.append_assoc, scaleNumbers_commas hcs, rewrite_valued ht hs hd]
  -- what stands in front of the numeral makes no difference to the stages that are left
  have hlater : Stage.rewriteAll [.fractions, .numeralMarks, .percentages, .operators, .cleanup]
      lexicon (cs ++ (d.shift s.2).text) = (d.shift s.2).text := by
    have hnone : ∀ c ∈ ([] : List Char), c = ',' := by simp
    rw [rewriteAll_written hordinary hof hcs hwritten,
      ← rewriteAll_written hordinary hof hnone hwritten, List.nil_append]
    exact rewriteAll_numeral (htext.isNumeral hhead) hordinary (operatorsApart_of_mem hpack) hof
  rw [← List.append_assoc] at hlength ⊢
  rw [lexicon.normalize_of_short hlength, prepare_scaled hapart hnumeric hname]
  show Stage.rewriteAll ([.numberWords, .scaleNumbers] ++
    [.fractions, .numeralMarks, .percentages, .operators, .cleanup]) lexicon _ = _
  rw [Stage.rewriteAll_append, hfirst, hlater]

end Normalize

/-- Where a written numeral has the marks of the language, behind commas or not, a scale word
multiplies its value by a power of ten, in every built-in language. -/
theorem normalize_scaled {pack : LanguagePack} (hpack : pack ∈ builtinPacks) {s : String × Nat}
    (hs : s ∈ scaleWords) {cs t n : List Char} {x : ℚ} (hcs : ∀ c ∈ cs, c = ',') (ht : IsWritten t)
    (hmark : IsMarkedBy pack.decimalMark t)
    (hlength : (cs ++ (t ++ ([' '] ++ s.1.toList))).length ≤ 1000)
    (hn : (Lexicon.ofPack pack).map (·.normalize (cs ++ t)) = .ok n) (hx : HasValue n x) :
    ∃ m, (Lexicon.ofPack pack).map (·.normalize (cs ++ (t ++ ([' '] ++ s.1.toList)))) = .ok m ∧
      HasValue m (x * 10 ^ s.2) := by
  have hordinary := isOrdinary_of_mem hpack
  obtain ⟨lexicon, hlexicon, hof⟩ := Lexicon.exists_of_mem hpack
  have hshort : (cs ++ t).length ≤ 1000 := by
    simp only [List.length_append] at hlength ⊢
    omega
  rw [hlexicon] at hn ⊢
  have hleft : lexicon.normalize (cs ++ t) = n := Except.ok.inj hn
  rw [normalize_written hpack hof hcs ht hshort] at hleft
  have hsolid : ∀ c ∈ n, isBlank c = false :=
    hx.forall_eq_false (by decide) fun _ => isBlank_of_isDecimalDigit
  have hread := eq_of_collapse (isWritten_rewrite hordinary ht) hsolid hleft
  obtain ⟨v, hv, hnone, rfl⟩ := exists_ungrouped hordinary ht.numeric hmark hx hread
  obtain ⟨d, hd, rfl⟩ := exists_ofNumeral? ht hv hnone hx
  refine ⟨_, congrArg Except.ok
    (normalize_marked hpack hof hcs (isMarked_of_ungrouped ht hv hnone hx) hd hs hlength), ?_⟩
  rw [← d.value_shift]
  exact (d.shift s.2).hasValue_text

/-- `,1.234,5 milliards` is `1234.5` times a million in French. -/
theorem normalize_scaled_french :
    french ∈ builtinPacks ∧ ("milliards", 6) ∈ scaleWords ∧ (∀ c ∈ [','], c = ',') ∧
      IsWritten "1.234,5".toList ∧ IsMarkedBy french.decimalMark "1.234,5".toList ∧
      ",1.234,5 milliards".length ≤ 1000 ∧
      (Lexicon.ofPack french).map (·.normalize ",1.234,5".toList) = .ok "1234.5".toList ∧
      HasValue "1234.5".toList (2469 / 2) ∧
      ∃ m, (Lexicon.ofPack french).map (·.normalize ",1.234,5 milliards".toList) = .ok m ∧
        HasValue m (2469 / 2 * 10 ^ 6) := by
  have hpack : french ∈ builtinPacks := by simp [builtinPacks]
  have hscale : ("milliards", 6) ∈ scaleWords := by decide
  have hcommas : ∀ c ∈ [','], c = ',' := by simp
  have hnumeric : ∀ c ∈ "1.234,5".toList, c.isDigit = true ∨ c = '.' ∨ c = ',' := by decide
  have hwritten : IsWritten "1.234,5".toList := ⟨hnumeric, by decide, by decide⟩
  have hmarked : IsMarkedBy french.decimalMark "1.234,5".toList := by
    have hone : "1.234,5".toList.count ',' ≤ 1 := by decide
    exact ⟨hone, fun _ => by decide⟩
  have hvalue : HasValue "1234.5".toList (2469 / 2) := by
    have hwhole : IsPlainDigits "1234".toList := ⟨by decide, by decide⟩
    have htenth : IsPlainDigits ['5'] := ⟨by decide, by decide⟩
    have hdigits : Nat.ofDigitChars 10 ("1234".toList ++ ['5']) 0 = 12345 := by decide
    have hhalf : (2469 / 2 : ℚ) = (12345 : ℕ) / 10 ^ ['5'].length := by norm_num
    rw [hhalf, ← hdigits]
    exact .decimal hwhole.2 htenth
  have hfront : ",1.234,5".toList = [','] ++ "1.234,5".toList := by decide
  have htext : ",1.234,5 milliards".toList =
      [','] ++ ("1.234,5".toList ++ ([' '] ++ "milliards".toList)) := by decide
  have hread : (Lexicon.ofPack french).map (·.normalize ([','] ++ "1.234,5".toList)) =
      .ok "1234.5".toList := by
    obtain ⟨lexicon, hlexicon, hof⟩ := Lexicon.exists_of_mem hpack
    have hleft := normalize_written hpack hof hcommas hwritten (by decide)
    rw [hlexicon]
    refine congrArg Except.ok (hleft.trans ?_)
    decide
  have hlength : ([','] ++ ("1.234,5".toList ++ ([' '] ++ "milliards".toList))).length ≤ 1000 := by
    decide
  have hscaled := normalize_scaled hpack hscale hcommas hwritten hmarked hlength hread hvalue
  rw [hfront, htext]
  exact ⟨hpack, hscale, hcommas, hwritten, hmarked, by decide, hread, hvalue, hscaled⟩

/-- `1.5` stays as it is in French, but in front of `million` its period sets a group apart. -/
theorem normalize_scaled_grouped :
    french ∈ builtinPacks ∧ ("million", 6) ∈ scaleWords ∧
      (∀ c ∈ "1.5".toList, c.isDigit = true ∨ c = '.' ∨ c = ',') ∧
      (Lexicon.ofPack french).map (·.normalize "1.5".toList) = .ok "1.5".toList ∧
      HasValue "1.5".toList (3 / 2) ∧
      (Lexicon.ofPack french).map (·.normalize "1.5 million".toList) = .ok "15000000".toList ∧
      ¬ HasValue "15000000".toList (3 / 2 * 10 ^ 6) := by
  have hpack : french ∈ builtinPacks := by simp [builtinPacks]
  have hscale : ("million", 6) ∈ scaleWords := by decide
  have hnumeric : ∀ c ∈ "1.5".toList, c.isDigit = true ∨ c = '.' ∨ c = ',' := by decide
  have hwritten : IsWritten "1.5".toList := ⟨hnumeric, by decide, by decide⟩
  have hnone : ∀ c ∈ ([] : List Char), c = ',' := by simp
  have hone : IsPlainDigits ['1'] := ⟨by decide, by decide⟩
  have hfive : IsPlainDigits ['5'] := ⟨by decide, by decide⟩
  obtain ⟨lexicon, hlexicon, hof⟩ := Lexicon.exists_of_mem hpack
  have hread : (Lexicon.ofPack french).map (·.normalize "1.5".toList) = .ok "1.5".toList := by
    have hleft := normalize_written hpack hof hnone hwritten (by decide)
    rw [hlexicon]
    refine congrArg Except.ok (hleft.trans ?_)
    decide
  have hvalue : HasValue "1.5".toList (3 / 2) := by
    have hdigits : Nat.ofDigitChars 10 (['1'] ++ ['5']) 0 = 15 := by decide
    have hhalf : (3 / 2 : ℚ) = (15 : ℕ) / 10 ^ ['5'].length := by norm_num
    rw [hhalf, ← hdigits]
    exact .decimal hone.2 hfive
  have hscaled : (Lexicon.ofPack french).map (·.normalize "1.5 million".toList) =
      .ok "15000000".toList := by
    have hdecimal : Decimal.ofNumeral? french.decimalMark "1.5".toList = some ⟨15, 0⟩ := by
      decide
    have hmarked : IsMarked "1.5".toList := .mark hone (Or.inl rfl) (.digits hfive)
    have hleft := normalize_marked hpack hof hnone hmarked hdecimal hscale (by decide)
    rw [hlexicon]
    refine congrArg Except.ok (hleft.trans ?_)
    decide
  refine ⟨hpack, hscale, hnumeric, hread, hvalue, hscaled, fun hwrong => ?_⟩
  have hplain : IsPlainDigits "15000000".toList := ⟨by decide, by decide⟩
  have hdigits : Nat.ofDigitChars 10 "15000000".toList 0 = 15000000 := by decide
  have hsame := hwrong.unique (.whole hplain)
  rw [hdigits] at hsame
  have hother : (3 / 2 * 10 ^ 6 : ℚ) ≠ (15000000 : ℕ) := by norm_num
  exact hother hsame

end CalcSpeech
