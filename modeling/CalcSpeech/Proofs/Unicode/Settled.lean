import CalcSpeech.Proofs.Unicode.Classes
import CalcSpeech.Proofs.Unicode.Composition

/-!
# Which characters are settled

What joins a base in composition is a letter or a mark, and so is nearly everything that is taken
apart. The rest are some symbols, most of them with a stroke through them. So a character that is
neither a letter nor a mark is settled unless it is one of few symbols that stand for others
(`settled_of_class`).
-/

namespace CalcSpeech.Unicode

/-- Spans of the marks that join a base. -/
def joinerSpans : List Span := [
  (0x300, 0x370), (0x591, 0x5BE), (0x5BF, 0x5C0), (0x5C1, 0x5C3), (0x64B, 0x660), (0x93A, 0x93D),
  (0x9BC, 0x9BD), (0x9BE, 0x9C5), (0x9D7, 0x9D8), (0xA3C, 0xA3D), (0xB3C, 0xB3D), (0xB3E, 0xB45),
  (0xB55, 0xB58), (0xBBE, 0xBC3), (0xBD7, 0xBD8), (0xC55, 0xC57), (0xCBE, 0xCC5), (0xCD5, 0xCD7),
  (0xD3E, 0xD45), (0xD57, 0xD58), (0xDCA, 0xDCB), (0xDCF, 0xDD5), (0xDD8, 0xDE0), (0xF71, 0xF85),
  (0xF99, 0xFBD), (0x102B, 0x103F), (0x1B34, 0x1B45), (0x3099, 0x309B), (0x110B0, 0x110BB),
  (0x11127, 0x11135), (0x1133E, 0x11345), (0x11357, 0x11358), (0x113B8, 0x113C1),
  (0x113C2, 0x113C3), (0x113C7, 0x113CB), (0x114B0, 0x114C4), (0x115AF, 0x115B6),
  (0x11930, 0x11936), (0x1611E, 0x16130), (0x1D165, 0x1D16A), (0x1D16D, 0x1D173)]

/-- Spans of the letters that join a base: vowels and tails of Hangul syllables, and one more. -/
def joinerLetterSpans : List Span := [(0x1161, 0x1176), (0x11A8, 0x11C3), (0x16D67, 0x16D68)]

/-- What the tables say about joiners. -/
structure JoinerSweeps : Prop where
  table : canonicalPairs.all (fun e => insideTest joinerSpans e.2.2 || e.2.2 == 0x16D67) = true
  low : (joinerSpans ++ joinerLetterSpans).all (fun s => 0x300 ≤ s.1) = true
  marks : within 1000 joinerSpans markPoints.spans = true
  letters : within 2000 joinerLetterSpans letterPoints.spans = true
  recentMarks : apart 1000 joinerSpans recentPoints.spans = true
  recentLetters : apart 1000 joinerLetterSpans recentPoints.spans = true
  ascending : Ascending joinerSpans ∧ Ascending joinerLetterSpans ∧ Ascending recentPoints.spans

theorem joinerSweeps : JoinerSweeps := by
  constructor <;> decide +kernel

/-- What joins a base lies in the spans of joiners. -/
theorem inside_of_compose? {base n result : Nat} (h : compose? base n = some result) :
    Inside joinerSpans n ∨ Inside joinerLetterSpans n := by
  unfold compose? at h
  split at h
  · rename_i syllable hsyllable
    right
    unfold composeHangul at hsyllable
    split at hsyllable
    · exact ⟨(0x1161, 0x1176), by simp [joinerLetterSpans], by simp only [Span.Holds]; omega⟩
    · split at hsyllable
      · exact ⟨(0x11A8, 0x11C3), by simp [joinerLetterSpans], by simp only [Span.Holds]; omega⟩
      · cases hsyllable
  · obtain ⟨e, he, -⟩ := Option.map_eq_some_iff.mp h
    have hn : e.2.2 = n := by
      have := List.find?_some he
      simp only [Bool.and_eq_true, beq_iff_eq] at this
      exact this.1.2
    have := List.all_eq_true.mp (joinerSweeps).table e (List.mem_of_find?_eq_some he)
    rw [Bool.or_eq_true, insideTest_iff, beq_iff_eq, hn] at this
    rcases this with hmark | rfl
    · exact Or.inl hmark
    · exact Or.inr (insideTest_iff.mp rfl)

theorem lone_of_not_inside {n : Nat} (hmark : ¬ Inside joinerSpans n)
    (hletter : ¬ Inside joinerLetterSpans n) : Lone n := by
  intro base
  rw [Option.eq_none_iff_forall_ne_some]
  intro result h
  rcases inside_of_compose? h with hj | hj
  · exact hmark hj
  · exact hletter hj

/-- Nothing below the first combining mark joins a base. -/
theorem lone_of_lt {n : Nat} (h : n < 0x300) : Lone n := by
  have habove : ∀ s ∈ joinerSpans ++ joinerLetterSpans, ¬ s.Holds n := by
    intro s hs hn
    have hlow := List.all_eq_true.mp (joinerSweeps).low s hs
    simp only [decide_eq_true_eq] at hlow
    have := hn.1
    omega
  apply lone_of_not_inside
  · intro hj
    obtain ⟨s, hs, hn⟩ := hj
    exact habove s (List.mem_append_left _ hs) hn
  · intro hj
    obtain ⟨s, hs, hn⟩ := hj
    exact habove s (List.mem_append_right _ hs) hn

/-- What is neither a letter nor a mark never joins a base. -/
theorem lone_of_class {c : Char} (hletter : isLetter c = false) (hmark : isMark c = false) :
    Lone c.toNat := by
  obtain ⟨hjoiners, hletters, hrecent⟩ := (joinerSweeps).ascending
  rcases Nat.lt_or_ge c.toNat 0x300 with hlow | hlow
  · exact lone_of_lt hlow
  · have hascii : 0x80 ≤ c.toNat := by omega
    apply lone_of_not_inside
    · intro hj
      have hold : isRecent c = false := isRecent_of_not_inside
        (not_inside_of_apart hjoiners hrecent (joinerSweeps).recentMarks hj)
      have := isMark_of_inside hascii (inside_of_within (joinerSweeps).marks hj) hold
      rw [hmark] at this
      exact Bool.false_ne_true this
    · intro hj
      have hold : isRecent c = false := isRecent_of_not_inside
        (not_inside_of_apart hletters hrecent (joinerSweeps).recentLetters hj)
      have := isLetter_of_inside hascii (inside_of_within (joinerSweeps).letters hj) hold
      rw [hletter] at this
      exact Bool.false_ne_true this

/-! ## What is taken apart -/

/-- Whether a code point is the base of a symbol: no letter, that is. -/
def isSymbolBase (n : Nat) : Bool :=
  n < 0x41 || n == 0xA8 || n == 0x1FBF || n == 0x1FFE || (0x2190 ≤ n && n < 0x22EE)

/-- The symbols that stand for a base and a mark and are put together again. -/
def symbolPairs : List (Nat × Nat × Nat) := [
  (0x385, 0xA8, 0x301), (0x1FC1, 0xA8, 0x342), (0x1FCD, 0x1FBF, 0x300), (0x1FCE, 0x1FBF, 0x301),
  (0x1FCF, 0x1FBF, 0x342), (0x1FDD, 0x1FFE, 0x300), (0x1FDE, 0x1FFE, 0x301),
  (0x1FDF, 0x1FFE, 0x342), (0x1FED, 0xA8, 0x300), (0x219A, 0x2190, 0x338),
  (0x219B, 0x2192, 0x338), (0x21AE, 0x2194, 0x338), (0x21CD, 0x21D0, 0x338),
  (0x21CE, 0x21D4, 0x338), (0x21CF, 0x21D2, 0x338), (0x2204, 0x2203, 0x338),
  (0x2209, 0x2208, 0x338), (0x220C, 0x220B, 0x338), (0x2224, 0x2223, 0x338),
  (0x2226, 0x2225, 0x338), (0x2241, 0x223C, 0x338), (0x2244, 0x2243, 0x338),
  (0x2247, 0x2245, 0x338), (0x2249, 0x2248, 0x338), (0x2260, 0x3D, 0x338),
  (0x2262, 0x2261, 0x338), (0x226D, 0x224D, 0x338), (0x226E, 0x3C, 0x338), (0x226F, 0x3E, 0x338),
  (0x2270, 0x2264, 0x338), (0x2271, 0x2265, 0x338), (0x2274, 0x2272, 0x338),
  (0x2275, 0x2273, 0x338), (0x2278, 0x2276, 0x338), (0x2279, 0x2277, 0x338),
  (0x2280, 0x227A, 0x338), (0x2281, 0x227B, 0x338), (0x2284, 0x2282, 0x338),
  (0x2285, 0x2283, 0x338), (0x2288, 0x2286, 0x338), (0x2289, 0x2287, 0x338),
  (0x22AC, 0x22A2, 0x338), (0x22AD, 0x22A8, 0x338), (0x22AE, 0x22A9, 0x338),
  (0x22AF, 0x22AB, 0x338), (0x22E0, 0x227C, 0x338), (0x22E1, 0x227D, 0x338),
  (0x22E2, 0x2291, 0x338), (0x22E3, 0x2292, 0x338), (0x22EA, 0x22B2, 0x338),
  (0x22EB, 0x22B3, 0x338), (0x22EC, 0x22B4, 0x338), (0x22ED, 0x22B5, 0x338)]

/-- The symbols that are taken apart for good: composed text has none of them. -/
def fleetingSymbols : List Nat := [
  0x37E, 0x387, 0x1FEE, 0x1FEF, 0x1FFD, 0x2000, 0x2001, 0x2329, 0x232A, 0x2ADC, 0x1D15E, 0x1D15F,
  0x1D160, 0x1D161, 0x1D162, 0x1D163, 0x1D164, 0x1D1BB, 0x1D1BC, 0x1D1BD, 0x1D1BE, 0x1D1BF,
  0x1D1C0]

/-- Spans of the bases of symbols and of the symbols themselves. -/
def symbolBaseSpans : List Span := [
  (0x3C, 0x3F), (0xA8, 0xA9), (0x1FBF, 0x1FC0), (0x1FFE, 0x1FFF), (0x2190, 0x22EE)]

/-- The code points that the tables take apart. -/
def tableKeys : List Nat := canonicalPairs.map (·.1) ++ canonicalSingles.map (·.1)

/-- What sweeps over the code points that are taken apart find: they are letters, marks, or among
the symbols above. -/
structure KeySweeps : Prop where
  pairs : outside 4000 (outside 4000 (canonicalPairs.map (·.1)) letterPoints.spans)
    markPoints.spans = symbolPairs.map (·.1) ++ fleetingSymbols.drop 9
  singles : outside 4000 (outside 4000 (canonicalSingles.map (·.1)) letterPoints.spans)
    markPoints.spans = fleetingSymbols.take 9
  recentPairs : apart 4000 (canonicalPairs.map fun e => (e.1, e.1 + 1)) recentPoints.spans = true
  recentSingles : apart 4000 (canonicalSingles.map fun e => (e.1, e.1 + 1)) recentPoints.spans =
    true
  ascendingPairs : Ascending (canonicalPairs.map fun e => (e.1, e.1 + 1))
  ascendingSingles : Ascending (canonicalSingles.map fun e => (e.1, e.1 + 1))
  distinct : (canonicalPairs.map (·.1)).IsChain (· < ·)
  gap : tableKeys.all (fun n => (0xC0 ≤ n && n < 0x300) || (0x340 ≤ n && n != 0x342)) = true
  syllables : within 2000 [(0xAC00, 0xD7A4)] letterPoints.spans = true
  recentSyllables : apart 100 [(0xAC00, 0xD7A4)] recentPoints.spans = true

theorem keySweeps : KeySweeps := by
  constructor <;> decide +kernel

/-- What sweeps over the symbols find. -/
structure SymbolSweeps : Prop where
  table : canonicalPairs.filter (isSymbolBase ·.2.1) = symbolPairs
  bases : symbolPairs.all (fun e => insideTest symbolBaseSpans e.2.1 && isSymbolBase e.2.1 &&
    e.1 < 0xAC00 && (e.2.2 == 0x300 || e.2.2 == 0x301 || e.2.2 == 0x338 || e.2.2 == 0x342)) = true
  joins : symbolPairs.all (fun e => (symbolPairs.find? fun (c, first, second) =>
    first == e.2.1 && second == e.2.2 && !compositionExclusions.contains c) == some e) = true
  letters : apart 2000 symbolBaseSpans letterPoints.spans = true
  marks : apart 2000 symbolBaseSpans markPoints.spans = true
  joiners : apart 2000 symbolBaseSpans joinerSpans = true
  letterJoiners : apart 2000 symbolBaseSpans joinerLetterSpans = true
  classes : apart 2000 symbolBaseSpans (combiningClasses.map fun e => (e.1, e.2.1 + 1)) = true ∧
    apart 2000 (symbolPairs.map fun e => (e.1, e.1 + 1))
      (combiningClasses.map fun e => (e.1, e.2.1 + 1)) = true
  ascending : Ascending symbolBaseSpans ∧ Ascending (symbolPairs.map fun e => (e.1, e.1 + 1)) ∧
    Ascending (combiningClasses.map fun e => (e.1, e.2.1 + 1)) ∧ Ascending letterPoints.spans
  keys : symbolPairs.all (fun e => !(symbolPairs.map (·.1) ++ fleetingSymbols).contains e.2.1) =
    true

theorem symbolSweeps : SymbolSweeps := by
  constructor <;> decide +kernel

/-- What the tables take apart is one of the symbols, or lies in the spans of letters or marks. -/
theorem tableKey_cases {n : Nat} (h : n ∈ tableKeys) :
    n ∈ symbolPairs.map (·.1) ∨ n ∈ fleetingSymbols ∨ Inside letterPoints.spans n ∨
      Inside markPoints.spans n := by
  rcases List.mem_append.mp h with hmem | hmem
  · rcases mem_outside 4000 letterPoints.spans hmem with hout | hin
    · rcases mem_outside 4000 markPoints.spans hout with hout | hin
      · rw [(keySweeps).pairs] at hout
        rcases List.mem_append.mp hout with hs | hs
        · exact Or.inl hs
        · exact Or.inr (Or.inl (List.mem_of_mem_drop hs))
      · exact Or.inr (Or.inr (Or.inr hin))
    · exact Or.inr (Or.inr (Or.inl hin))
  · rcases mem_outside 4000 letterPoints.spans hmem with hout | hin
    · rcases mem_outside 4000 markPoints.spans hout with hout | hin
      · rw [(keySweeps).singles] at hout
        exact Or.inr (Or.inl (List.mem_of_mem_take hout))
      · exact Or.inr (Or.inr (Or.inr hin))
    · exact Or.inr (Or.inr (Or.inl hin))

/-- Nothing recent is taken apart. -/
theorem isRecent_of_tableKey {c : Char} (h : c.toNat ∈ tableKeys) : isRecent c = false := by
  obtain ⟨-, -, hrecent⟩ := (joinerSweeps).ascending
  have hown {n : Nat} (hn : n = c.toNat) : Span.Holds (n, n + 1) c.toNat :=
    ⟨Nat.le_of_eq hn, Nat.lt_succ_of_le (Nat.le_of_eq hn.symm)⟩
  apply isRecent_of_not_inside
  rcases List.mem_append.mp h with hmem | hmem
  · obtain ⟨e, he, hec⟩ := List.mem_map.mp hmem
    exact not_inside_of_apart (keySweeps).ascendingPairs hrecent (keySweeps).recentPairs
      ⟨(e.1, e.1 + 1), List.mem_map_of_mem he, hown hec⟩
  · obtain ⟨e, he, hec⟩ := List.mem_map.mp hmem
    exact not_inside_of_apart (keySweeps).ascendingSingles hrecent (keySweeps).recentSingles
      ⟨(e.1, e.1 + 1), List.mem_map_of_mem he, hown hec⟩

/-- What the tables take apart begins above the controls beyond ASCII. -/
theorem le_of_tableKey {n : Nat} (h : n ∈ tableKeys) : 0xC0 ≤ n := by
  have := List.all_eq_true.mp (keySweeps).gap n h
  simp only [Bool.or_eq_true, Bool.and_eq_true, decide_eq_true_eq] at this
  omega

/-- What the tables take apart and is neither a letter nor a mark is one of the symbols. -/
theorem symbol_of_tableKey {c : Char} (hletter : isLetter c = false) (hmark : isMark c = false)
    (h : c.toNat ∈ tableKeys) :
    c.toNat ∈ symbolPairs.map (·.1) ∨ c.toNat ∈ fleetingSymbols := by
  have hascii : 0x80 ≤ c.toNat := Nat.le_trans (by decide) (le_of_tableKey h)
  have hold := isRecent_of_tableKey h
  rcases tableKey_cases h with hs | hs | hin | hin
  · exact Or.inl hs
  · exact Or.inr hs
  · rw [isLetter_of_inside hascii hin hold] at hletter
    exact absurd hletter (by decide)
  · rw [isMark_of_inside hascii hin hold] at hmark
    exact absurd hmark (by decide)

/-- What is no key is not taken apart. -/
theorem decomposePoint_of_not_key {n : Nat} (h : n ∉ tableKeys) (depth : Nat) :
    decomposePoint depth n = [n] := by
  have hpairs : canonicalPairs.find? (·.1 == n) = none := by
    rw [List.find?_eq_none]
    intro e he hen
    exact h (List.mem_append_left _ (List.mem_map.mpr ⟨e, he, beq_iff_eq.mp hen⟩))
  have hsingles : canonicalSingles.find? (·.1 == n) = none := by
    rw [List.find?_eq_none]
    intro e he hen
    exact h (List.mem_append_right _ (List.mem_map.mpr ⟨e, he, beq_iff_eq.mp hen⟩))
  cases depth with
  | zero => rfl
  | succ depth =>
    rw [decomposePoint, hpairs]
    simp only [hsingles]

theorem decomposeHangul_of_not {n : Nat} (h : ¬ (0xAC00 ≤ n ∧ n ≤ 0xD7A3)) :
    decomposeHangul n = none := by
  unfold decomposeHangul
  rw [if_neg h]

theorem decomposition_of_not_key {n : Nat} (h : n ∉ tableKeys)
    (hsyllable : ¬ (0xAC00 ≤ n ∧ n ≤ 0xD7A3)) : decomposition n = [n] := by
  unfold decomposition
  split
  · rfl
  · rw [decomposeHangul_of_not hsyllable, decomposePoint_of_not_key h]
    rfl

/-- A key that stands for two others, neither of them a key, is taken apart into these. -/
theorem decomposition_of_pair {n base mark : Nat}
    (h : canonicalPairs.find? (·.1 == n) = some (n, base, mark)) (hlow : 0xC0 ≤ n)
    (hsyllable : n < 0xAC00) (hbase : base ∉ tableKeys) (hmark : mark ∉ tableKeys) :
    decomposition n = [base, mark] := by
  unfold decomposition
  rw [if_neg (Nat.not_lt.mpr hlow), decomposeHangul_of_not (by omega)]
  show decomposePoint 5 n = [base, mark]
  rw [decomposePoint, h]
  simp only [decomposePoint_of_not_key hbase, decomposePoint_of_not_key hmark]
  rfl

/-- What the tables say of the four marks of symbols. -/
theorem not_tableKey_of_mark {n : Nat} (h : (0x300 ≤ n ∧ n < 0x340) ∨ n = 0x342) :
    n ∉ tableKeys := by
  intro hn
  have := List.all_eq_true.mp (keySweeps).gap n hn
  simp only [Bool.or_eq_true, Bool.and_eq_true, decide_eq_true_eq, bne_iff_ne] at this
  omega

/-- Only code points in the table of classes have a class. -/
theorem combiningClass_eq_zero {n : Nat}
    (h : ¬ Inside (combiningClasses.map fun e => (e.1, e.2.1 + 1)) n) : combiningClass n = 0 := by
  unfold combiningClass
  revert h
  generalize combiningClasses = table
  intro h
  induction table with
  | nil => rfl
  | cons e rest ih =>
    obtain ⟨first, last, cls⟩ := e
    rw [combiningClassIn]
    split
    · rfl
    · split
      · rename_i hfirst hlast
        refine absurd ⟨(first, last + 1), by simp, ?_⟩ h
        exact ⟨Nat.le_of_not_lt hfirst, Nat.lt_succ_of_le hlast⟩
      · apply ih
        intro hin
        obtain ⟨s, hs, hn⟩ := hin
        exact h ⟨s, List.mem_cons_of_mem _ hs, hn⟩

/-- In a table with ascending keys every entry is found under its key. -/
theorem find?_of_mem {table : List (Nat × Nat × Nat)} (h : (table.map (·.1)).Pairwise (· < ·))
    {e : Nat × Nat × Nat} (he : e ∈ table) : table.find? (·.1 == e.1) = some e := by
  induction table with
  | nil => cases he
  | cons first rest ih =>
    obtain ⟨hfirst, hrest⟩ := List.pairwise_cons.mp h
    rcases List.mem_cons.mp he with rfl | he
    · rw [List.find?_cons_of_pos (by simp)]
    · have hne : first.1 ≠ e.1 := Nat.ne_of_lt (hfirst e.1 (List.mem_map_of_mem he))
      rw [List.find?_cons_of_neg (by simpa using hne), ih hrest he]

/-- What is found is found among the entries that could be it. -/
theorem find?_filter_of_imp {α : Type} {p q : α → Bool} (h : ∀ x, p x = true → q x = true)
    (xs : List α) : (xs.filter q).find? p = xs.find? p := by
  induction xs with
  | nil => rfl
  | cons x xs ih =>
    by_cases hp : p x = true
    · rw [List.filter_cons_of_pos (h x hp), List.find?_cons_of_pos hp, List.find?_cons_of_pos hp]
    · rw [List.find?_cons_of_neg hp, ← ih]
      by_cases hq : q x = true
      · rw [List.filter_cons_of_pos hq, List.find?_cons_of_neg hp]
      · rw [List.filter_cons_of_neg hq]

/-- A symbol with a base and a mark is settled. -/
theorem settled_of_symbolPair {e : Nat × Nat × Nat} (he : e ∈ symbolPairs) : Settled e.1 := by
  obtain ⟨hspans, hsymbols, hclasses, hletters⟩ := (symbolSweeps).ascending
  have hmem : e ∈ canonicalPairs := by
    rw [← (symbolSweeps).table] at he
    exact List.mem_of_mem_filter he
  have hbases := List.all_eq_true.mp (symbolSweeps).bases e he
  simp only [Bool.and_eq_true, insideTest_iff, decide_eq_true_eq, Bool.or_eq_true,
    beq_iff_eq] at hbases
  obtain ⟨⟨⟨hinside, hbase⟩, hsyllable⟩, hmark⟩ := hbases
  have hlow : 0xC0 ≤ e.1 :=
    le_of_tableKey (List.mem_append_left _ (List.mem_map_of_mem hmem))
  -- the base is not taken apart any further
  have hnokey : e.2.1 ∉ tableKeys := by
    have hlisted := List.all_eq_true.mp (symbolSweeps).keys e he
    rw [Bool.not_eq_true', List.contains_eq_mem, decide_eq_false_iff_not,
      List.mem_append, not_or] at hlisted
    intro hkey
    rcases tableKey_cases hkey with hs | hs | hin | hin
    · exact hlisted.1 hs
    · exact hlisted.2 hs
    · exact not_inside_of_apart hspans hletters (symbolSweeps).letters hinside hin
    · exact not_inside_of_apart hspans ascending_markSpans (symbolSweeps).marks hinside hin
  have hfind : canonicalPairs.find? (·.1 == e.1) = some (e.1, e.2.1, e.2.2) :=
    find?_of_mem (List.isChain_iff_pairwise.mp (keySweeps).distinct) hmem
  -- the pair is put together again to the symbol that it comes from
  have hjoin : compose? e.2.1 e.2.2 = some e.1 := by
    have hhangul : composeHangul e.2.1 e.2.2 = none := by
      unfold composeHangul
      rw [if_neg (by omega), if_neg (by omega)]
    have hfirst := beq_iff_eq.mp (List.all_eq_true.mp (symbolSweeps).joins e he)
    rw [← (symbolSweeps).table, find?_filter_of_imp] at hfirst
    · rw [compose?, hhangul]
      simp only [hfirst, Option.map_some]
    · intro x hx
      simp only [Bool.and_eq_true, beq_iff_eq] at hx
      rw [hx.1.1]
      exact hbase
  refine .pair e.2.1 e.2.2 ?_ hjoin ?_ ?_ ?_
  · exact decomposition_of_pair hfind hlow hsyllable hnokey
      (not_tableKey_of_mark (by omega))
  · exact lone_of_not_inside
      (not_inside_of_apart hspans (joinerSweeps).ascending.1 (symbolSweeps).joiners hinside)
      (not_inside_of_apart hspans (joinerSweeps).ascending.2.1 (symbolSweeps).letterJoiners hinside)
  · exact combiningClass_eq_zero
      (not_inside_of_apart hspans hclasses (symbolSweeps).classes.1 hinside)
  · refine combiningClass_eq_zero
      (not_inside_of_apart hsymbols hclasses (symbolSweeps).classes.2
        ⟨(e.1, e.1 + 1), List.mem_map_of_mem he, ?_⟩)
    exact ⟨Nat.le_refl _, Nat.lt_succ_self _⟩

/-- A character that is neither a letter nor a mark is settled, unless composed text has none of
it. -/
theorem settled_of_class {c : Char} (hletter : isLetter c = false) (hmark : isMark c = false)
    (hkeeps : c.toNat ∉ fleetingSymbols) : Settled c.toNat := by
  by_cases hkey : c.toNat ∈ tableKeys
  · have hsymbol := (symbol_of_tableKey hletter hmark hkey).resolve_right hkeeps
    obtain ⟨e, he, hec⟩ := List.mem_map.mp hsymbol
    exact hec ▸ settled_of_symbolPair he
  · refine .whole (decomposition_of_not_key hkey ?_) (lone_of_class hletter hmark)
    intro hsyllable
    have hin : Inside [(0xAC00, 0xD7A4)] c.toNat :=
      ⟨(0xAC00, 0xD7A4), by simp, hsyllable.1, by show _ < 0xD7A4; omega⟩
    have hold : isRecent c = false := isRecent_of_not_inside
      (not_inside_of_apart (by decide) (joinerSweeps).ascending.2.2 (keySweeps).recentSyllables hin)
    rw [isLetter_of_inside (by omega) (inside_of_within (keySweeps).syllables hin) hold] at hletter
    exact absurd hletter (by decide)

/-- A character below the letters with accents is settled. -/
theorem settled_of_lt {n : Nat} (h : n < 0xC0) : Settled n :=
  .whole (by rw [decomposition, if_pos h]) (lone_of_lt (by omega))

end CalcSpeech.Unicode
