import CalcSpeech.Proofs.NumberName.Row
import CalcSpeech.Proofs.Operator.Signs
import CalcSpeech.Proofs.ScaleNumber

/-!
# Spoken numbers in English

A number that is said in English, with a scale word in it or without, comes to its digits
(`normalize_englishName`).
-/

namespace CalcSpeech

open Unicode Pattern Vocabulary Text NumberWord ScaleNumber Transcript

/-- The scale words of the short scale with their powers of ten. -/
def englishScales : List (String × Nat) := [("million", 6), ("billion", 9), ("trillion", 12)]

/-- What a number may be said as: the name of a number below a million, or of the number of
millions, billions or trillions, with the name of the rest behind the scale word. -/
inductive EnglishName : Nat → List Char → Prop
  | plain {n x} : 0 < n → n < 1000000 → Says (numberParts n) x → EnglishName n x
  | scaled {n x scale} : 0 < n → n < 1000000 → Says (numberParts n) x → scale ∈ englishScales →
      EnglishName (n * 10 ^ scale.2) (x ++ ([' '] ++ scale.1.toList))
  | sum {n m x y scale} : 0 < n → n < 1000000 → Says (numberParts n) x → scale ∈ englishScales →
      0 < m → m < 1000000 → Says (numberParts m) y →
      EnglishName (n * 10 ^ scale.2 + m) (x ++ ([' '] ++ (scale.1.toList ++ ([' '] ++ y))))

/-! ## Scale words in runs of number words -/

/-- A scale word is a word of its own, with which no number word and no protected phrase begins. -/
theorem englishScale_word : ∀ s ∈ englishScales, s ∈ scaleWords ∧ '-' ∉ s.1.toList ∧
    s.1.toList.length ≤ 9 ∧ (∀ c ∈ s.1.toList, c.toNat < 0x80) ∧
    (IsSpoken s.1.toList ∧ firstWord s.1.toList = s.1.toList) ∧
    ∀ q ∈ numberNames english ++ "and" :: protectedPhrases english,
      firstWord q.toList ≠ s.1.toList := by decide +kernel

section Scales

variable {s : String × Nat} (hs : s ∈ englishScales)

include hs

theorem isWord_englishScale : IsWord s.1.toList := by
  obtain ⟨-, -, -, -, ⟨hspoken, hsingle⟩, -⟩ := englishScale_word s hs
  have h := hspoken.isWord
  rwa [hsingle] at h

theorem not_hyphen_englishScale : '-' ∉ [' '] ++ s.1.toList := by
  rw [List.mem_append, not_or]
  exact ⟨by decide, (englishScale_word s hs).2.1⟩

/-- A run of number words ends in front of a scale word. -/
theorem endsRun_scale {b : Option Char} {r : List Char} (hr : r.head?.any isWordCharacter = false) :
    EndsRun b ([' '] ++ (s.1.toList ++ r)) := by
  obtain ⟨-, -, -, -, ⟨hspoken, -⟩, hother⟩ := englishScale_word s hs
  have hno {phrases : List String}
      (h : ∀ q ∈ phrases, q ∈ numberNames english ++ "and" :: protectedPhrases english) :
      ¬ Begins phrases (some ' ') (s.1.toList ++ r) :=
    not_begins_word (isWord_englishScale hs) behind_space hr fun q hq _ => hother q (h q hq)
  refine ⟨head_space, fun h => ?_⟩
  rw [pastBlanks_iff (by decide) (IsProper.head_solid (Or.inl hspoken))] at h
  rcases h with h | h
  · exact hno (fun q hq => List.mem_append_left _ hq) h
  · exact hno (by simp) h

/-- No run of number words begins in a scale word. -/
theorem quiet_scale {b : Option Char} {r : List Char} (hr : r.head?.any isWordCharacter = false) :
    (runOf english).Quiet b ([' '] ++ s.1.toList) r := by
  obtain ⟨-, -, -, -, ⟨hspoken, -⟩, hother⟩ := englishScale_word s hs
  have hword := isWord_englishScale hs
  have hno {phrases : List String}
      (h : ∀ q ∈ phrases, q ∈ numberNames english ++ "and" :: protectedPhrases english) :
      Nowhere (Begins phrases) b ([' '] ++ s.1.toList) r := by
    apply nowhere_begins
    · intro q hq hspoken'
      rw [nowhere_append]
      exact ⟨nowhere_space hspoken'.isWord,
        nowhere_token hspoken'.isWord (Or.inl hword.2) (hother q (h q hq)) hr⟩
    · intro c hc _ hmem
      have hsmall : ∀ c ∈ signs, isSmallLatin c = false ∧ c ≠ ' ' := by decide
      rcases List.mem_append.mp hmem with hmem | hmem
      · exact (hsmall c hc).2 (List.mem_singleton.mp hmem)
      · rcases hspoken.mem hmem with hspace | hletter
        · exact (hsmall c hc).2 hspace
        · exact Bool.false_ne_true ((hsmall c hc).1.symm.trans hletter)
  refine (opensAt_runOf isOrdinary_english).quiet (Nowhere.or (hno ?_) (hno ?_))
  · intro q hq
    exact List.mem_append_right _ (List.mem_cons_of_mem _ hq)
  · intro q hq
    exact List.mem_append_left _ hq

end Scales

theorem endsRun_nil {b : Option Char} : EndsRun b [] := by
  refine ⟨rfl, ?_⟩
  rintro ⟨g, y, htext, -, -, hplace⟩
  obtain rfl : y = [] := (List.append_eq_nil_iff.mp htext.symm).2
  rcases hplace with hplace | hplace <;> exact hplace.ne_nil rfl

/-! ## From words to digits -/

/-- What is said with a scale word is not too large to be added up. -/
theorem englishSum_lt {n m : Nat} (hn : n < 1000000) (hm : m < 1000000) {s : String × Nat}
    (hs : s ∈ englishScales) : n * 10 ^ s.2 + m < sumLimit := by
  have hexponent : ∀ s ∈ englishScales, 10 ^ s.2 ≤ 10 ^ 12 := by decide
  have hproduct := Nat.mul_le_mul (Nat.le_of_lt hn) (hexponent s hs)
  have hbound : 1000000 * 10 ^ 12 + 1000000 < sumLimit := by decide
  omega

section Reading

variable {reader : Reader} (hreader : Reader.ofPack? english = .ok (some reader))

include hreader

/-- A name that is split at its hyphens is rewritten as the number, whatever ends the run. -/
theorem exists_run_of_says {n : Nat} {x : List Char} (hpos : 0 < n) (hn : n < 1000000)
    (hx : Says (numberParts n) x) : ∃ row,
      (∀ before tail, splitAtHyphens before (x ++ tail) =
        row ++ splitAtHyphens (behind before x) tail) ∧
      ∀ b a, b.any isWordCharacter = false → (∀ b, EndsRun b a) →
        (runOf english).rewriteAfter reader.rewriteRun b (row ++ a) = Nat.toDigits 10 n ++
          (runOf english).rewriteAfter reader.rewriteRun (behind b row) a := by
  obtain ⟨p, steps, hparts, hsplit⟩ := hx.exists_row (mem_all_of_mem_numberParts hn)
  exact ⟨rowText p steps, hsplit, fun b a hb ha =>
    rewriteAfter_row hreader hpos hn hparts hb (ha _)⟩

/-- At the end of a text a name is rewritten as the number. -/
theorem exists_last_run {n : Nat} {x : List Char} (hpos : 0 < n) (hn : n < 1000000)
    (hx : Says (numberParts n) x) : ∃ row, (∀ before, splitAtHyphens before x = row) ∧
      ∀ b, b.any isWordCharacter = false →
        (runOf english).rewriteAfter reader.rewriteRun b row = Nat.toDigits 10 n := by
  obtain ⟨row, hsplit, hrun⟩ := exists_run_of_says hreader hpos hn hx
  refine ⟨row, fun before => ?_, fun b hb => ?_⟩
  · have h := hsplit before []
    simpa only [splitAtHyphens, List.append_nil] using h
  · have h := hrun b [] hb fun _ => endsRun_nil
    simpa only [rewriteAfter_nil, List.append_nil] using h

omit hreader in
/-- The space in front of a name is kept. -/
theorem rewriteAfter_runOf_space (b : Option Char) (row : List Char) :
    (runOf english).rewriteAfter reader.rewriteRun b ([' '] ++ row) =
      [' '] ++ (runOf english).rewriteAfter reader.rewriteRun (some ' ') row := by
  refine rewriteAfter_plain _ ((opensAt_runOf isOrdinary_english).matchAt?_eq_none ?_)
  rintro (h | h) <;> exact not_begins_space h

/-- A spoken number is its digits once number words and scale words are read. -/
theorem rewrite_englishName {n : Nat} {phrase : List Char} (h : EnglishName n phrase) :
    ScaleNumber.rewrite english.decimalMark (scaledSum (PercentPhrase.sign english))
      ((runOf english).rewrite reader.rewriteRun (splitAtHyphens none phrase)) =
        Nat.toDigits 10 n := by
  have hplain (n : Nat) : IsPlainDigits (Nat.toDigits 10 n) := isPlainDigits_toDigits n
  rw [rewrite_eq_rewriteAfter]
  -- each name in the phrase is one run, and scale words stand between runs
  cases h with
  | @plain n x hpos hn hx =>
    obtain ⟨row, hsplit, hrun⟩ := exists_last_run hreader hpos hn hx
    have hsilent : Silent (Nat.toDigits 10 n) := fun c hc =>
      isVerbal_of_isDecimalDigit ((hplain n).isDigits.2 c hc)
    rw [hsplit, hrun none rfl, scaleNumbers_of_silent _ _ hsilent]
  | @scaled n x s hpos hn hx hs =>
    obtain ⟨row, hsplit, hrun⟩ := exists_run_of_says hreader hpos hn hx
    have hscale (before : Option Char) :
        splitAtHyphens before ([' '] ++ s.1.toList) = [' '] ++ s.1.toList := by
      have h := splitAtHyphens_append (not_hyphen_englishScale hs) before []
      simpa [splitAtHyphens] using h
    have hend (b : Option Char) : EndsRun b ([' '] ++ s.1.toList) := by
      have h := endsRun_scale hs (b := b) (r := []) rfl
      rwa [List.append_nil] at h
    have hquiet := rewriteAfter_quiet reader.rewriteRun
      (quiet_scale hs (b := behind none row) (r := []) rfl)
    rw [rewriteAfter_nil, List.append_nil] at hquiet
    rw [hsplit, hscale, hrun none _ rfl hend, hquiet,
      rewrite_whole (hplain n) (englishScale_word s hs).1, Nat.ofDigitChars_ten_toDigits]
  | @sum n m x y s hpos hn hx hs hmpos hm hy =>
    obtain ⟨row, hsplit, hrun⟩ := exists_run_of_says hreader hpos hn hx
    obtain ⟨row', hsplit', hrun'⟩ := exists_last_run hreader hmpos hm hy
    have hscale (before : Option Char) :
        splitAtHyphens before ([' '] ++ (s.1.toList ++ ([' '] ++ y))) =
          [' '] ++ (s.1.toList ++ ([' '] ++ row')) := by
      have hspaced : '-' ∉ [' '] ++ s.1.toList ++ [' '] := by
        rw [List.mem_append, not_or]
        exact ⟨not_hyphen_englishScale hs, by decide⟩
      have h := splitAtHyphens_append hspaced before y
      rw [hsplit'] at h
      simpa using h
    have hquiet := rewriteAfter_quiet reader.rewriteRun
      (quiet_scale hs (b := behind none row) (r := [' '] ++ row') head_space)
    rw [List.append_assoc, rewriteAfter_runOf_space _ row', hrun' (some ' ') rfl,
      List.append_assoc] at hquiet
    have hend (b : Option Char) : EndsRun b ([' '] ++ (s.1.toList ++ ([' '] ++ row'))) :=
      endsRun_scale hs head_space
    have hlimit : Nat.ofDigitChars 10 (Nat.toDigits 10 n) 0 * 10 ^ s.2 +
        Nat.ofDigitChars 10 (Nat.toDigits 10 m) 0 < sumLimit := by
      rw [Nat.ofDigitChars_ten_toDigits, Nat.ofDigitChars_ten_toDigits]
      exact englishSum_lt hn hm hs
    rw [hsplit, hscale, hrun none _ rfl hend, hquiet,
      rewrite_wholeSum (hplain n) (hplain m) (englishScale_word s hs).1 _ (needsAt_sign english) hlimit,
      Nat.ofDigitChars_ten_toDigits, Nat.ofDigitChars_ten_toDigits]

end Reading

/-- What a number is said as is short and in ASCII. -/
theorem EnglishName.short_ascii {n : Nat} {phrase : List Char} (h : EnglishName n phrase) :
    phrase.length ≤ 1000 ∧ ∀ c ∈ phrase, c.toNat < 0x80 := by
  have hname {n : Nat} {x : List Char} (hn : n < 1000000) (hx : Says (numberParts n) x) :
      x.length ≤ 126 ∧ ∀ c ∈ x, c.toNat < 0x80 := by
    have hall := mem_all_of_mem_numberParts hn
    have hlength := hx.length_le hall
    have hparts := length_numberParts n
    exact ⟨by omega, hx.ascii hall⟩
  have hspace : ∀ c ∈ [' '], c.toNat < 0x80 := by decide
  cases h with
  | plain _ hn hx =>
    obtain ⟨hlength, hascii⟩ := hname hn hx
    exact ⟨by omega, hascii⟩
  | @scaled n x s _ hn hx hs =>
    obtain ⟨hlength, hascii⟩ := hname hn hx
    obtain ⟨-, -, hshort, hscale, -⟩ := englishScale_word s hs
    constructor
    · simp only [List.length_append, List.length_singleton]
      omega
    · exact List.forall_mem_append.mpr ⟨hascii, List.forall_mem_append.mpr ⟨hspace, hscale⟩⟩
  | @sum n m x y s _ hn hx hs _ hm hy =>
    obtain ⟨hlength, hascii⟩ := hname hn hx
    obtain ⟨hlength', hascii'⟩ := hname hm hy
    obtain ⟨-, -, hshort, hscale, -⟩ := englishScale_word s hs
    constructor
    · simp only [List.length_append, List.length_singleton]
      omega
    · simp only [List.forall_mem_append]
      exact ⟨hascii, hspace, hscale, hspace, hascii'⟩

theorem IsPlainDigits.isNumeral {ds : List Char} (h : IsPlainDigits ds) : IsNumeral ds :=
  .whole h.isDigits

/-- A number said in English, in letters of any case, comes to its digits. -/
theorem normalize_englishName {n : Nat} {phrase transcript : List Char}
    (h : EnglishName n phrase) (hcase : transcript.map Char.toLower = phrase) :
    (Lexicon.ofPack english).map (·.normalize transcript) = .ok (Nat.toDigits 10 n) := by
  obtain ⟨lexicon, hlexicon⟩ := Lexicon.exists_ofPack isOrdinary_english
  have hof := Lexicon.isOf_of_ofPack hlexicon
  obtain ⟨reader, hreader⟩ := exists_reader_english
  obtain ⟨hlength, hascii⟩ := h.short_ascii
  have hplain : IsPlainDigits (Nat.toDigits 10 n) := isPlainDigits_toDigits n
  have hsome : lexicon.numberWords = some reader := by
    have h := hof.numberWords
    rw [hreader] at h
    exact (Except.ok.inj h).symm
  have hshort : Transcript.isTooLong transcript = false := by
    rw [Transcript.isTooLong, decide_eq_false_iff_not, ← List.length_map Char.toLower, hcase]
    exact Nat.not_lt.mpr hlength
  have hprepare : prepare transcript = splitAtHyphens none phrase := by
    rw [prepare_of_ascii, hcase]
    intro c hc
    rw [← toNat_toLower_lt]
    apply hascii
    rw [← hcase]
    exact List.mem_map_of_mem hc
  have hstages : Stage.all = [.numberWords, .scaleNumbers] ++
      [.fractions, .numeralMarks, .percentages, .operators, .cleanup] := rfl
  have hread := rewrite_englishName hreader h
  rw [← run_eq_runOf hreader] at hread
  rw [hlexicon]
  show Except.ok (lexicon.normalize _) = _
  rw [Lexicon.normalize, hshort, if_neg Bool.false_ne_true, hprepare, hstages,
    Stage.rewriteAll_append]
  -- the first two stages leave digits, which the others keep
  have hfirst : Stage.rewriteAll [.numberWords, .scaleNumbers] lexicon
      (splitAtHyphens none phrase) = Nat.toDigits 10 n := by
    rw [← hread]
    simp only [Stage.rewriteAll, List.foldl_cons, List.foldl_nil, Stage.rewrite]
    rw [hof.pack_eq, hof.scaledSum, hsome]
    rfl
  rw [hfirst]
  exact congrArg Except.ok (rewriteAll_numeral hplain.isNumeral isOrdinary_english
    (operatorsApart_of_mem List.mem_cons_self) hof)

/-- `Two Hundred and twenty-five million six` -/
theorem normalize_englishName_million :
    EnglishName 225000006 "two hundred and twenty-five million six".toList ∧
      "Two Hundred and twenty-five million six".toList.map Char.toLower =
        "two hundred and twenty-five million six".toList ∧
      (Lexicon.ofPack english).map (·.normalize "Two Hundred and twenty-five million six".toList) =
        .ok "225000006".toList := by
  have hfront : Says (numberParts 225) "two hundred and twenty-five".toList :=
    .next .space trivial (.next .connector trivial (.next .hyphen trivial (.last (.small 5))))
  have hback : Says (numberParts 6) "six".toList := .last (.small 6)
  have hmillion : ("million", 6) ∈ englishScales := List.mem_cons_self
  have hname : EnglishName 225000006 "two hundred and twenty-five million six".toList :=
    .sum (by decide) (by decide) hfront hmillion (by decide) (by decide) hback
  have hcase : "Two Hundred and twenty-five million six".toList.map Char.toLower =
      "two hundred and twenty-five million six".toList := by decide
  exact ⟨hname, hcase, normalize_englishName hname hcase⟩

end CalcSpeech
