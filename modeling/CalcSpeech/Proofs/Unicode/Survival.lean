import CalcSpeech.Proofs.Language.Code
import CalcSpeech.Proofs.Unicode.Wordwise

/-!
# What composing brings in

Composing takes characters apart and puts characters together. A kind of character that survives
both is all that is left of a text of that kind (`Survives.forall_mem_composed`). That a character
is no capital, no dash and no space is of such a kind: the tables lead from capitals to capitals and
from other bases to other bases. A text without capitals and dashes therefore stays without them
when it is composed, and its spaces stay (`unguarded_composed`).
-/

namespace CalcSpeech.Unicode

/-! ## Kinds of code points -/

/-- Code points of a kind are taken apart into such code points, and put together to such. -/
structure Survives (P : Nat → Prop) : Prop where
  apart : ∀ n, P n → ∀ m ∈ decomposition n, P m
  together : ∀ a b n, P a → P b → compose? a b = some n → P n

section Survives

variable {P : Nat → Prop}

theorem forall_mem_insertByClass {n : Nat} (hn : P n) {points : List Nat}
    (h : ∀ m ∈ points, P m) : ∀ m ∈ insertByClass n points, P m := by
  induction points with
  | nil => exact List.forall_mem_singleton.mpr hn
  | cons next rest ih =>
    obtain ⟨hnext, hrest⟩ := List.forall_mem_cons.mp h
    rw [insertByClass]
    split
    · exact List.forall_mem_cons.mpr ⟨hnext, ih hrest⟩
    · exact List.forall_mem_cons.mpr ⟨hn, h⟩

theorem forall_mem_orderMarks {points : List Nat} (h : ∀ m ∈ points, P m) :
    ∀ m ∈ orderMarks points, P m := by
  induction points with
  | nil => exact h
  | cons n rest ih =>
    obtain ⟨hn, hrest⟩ := List.forall_mem_cons.mp h
    exact forall_mem_insertByClass hn (ih hrest)

variable (hP : Survives P)

include hP

theorem Survives.forall_mem_composeAfter {base : Nat} (hbase : P base) {kept : List Nat}
    (hkept : ∀ m ∈ kept, P m) (highest : Nat) {points : List Nat} (h : ∀ m ∈ points, P m) :
    ∀ m ∈ composeAfter base kept highest points, P m := by
  induction points generalizing base kept highest with
  | nil =>
    exact List.forall_mem_cons.mpr ⟨hbase, fun m hm => hkept m (List.mem_reverse.mp hm)⟩
  | cons n rest ih =>
    obtain ⟨hn, hrest⟩ := List.forall_mem_cons.mp h
    simp only [composeAfter]
    split
    · rename_i joined hjoin
      have hsome : compose? base n = some joined := by
        split at hjoin
        · exact hjoin
        · cases hjoin
      exact ih (hP.together base n joined hbase hn hsome) hkept _ hrest
    · split
      · refine List.forall_mem_cons.mpr ⟨hbase, List.forall_mem_append.mpr ⟨?_, ?_⟩⟩
        · exact fun m hm => hkept m (List.mem_reverse.mp hm)
        · exact ih hn (fun m hm => absurd hm List.not_mem_nil) _ hrest
      · exact ih hbase (List.forall_mem_cons.mpr ⟨hn, hkept⟩) _ hrest

theorem Survives.forall_mem_composePoints {points : List Nat} (h : ∀ m ∈ points, P m) :
    ∀ m ∈ composePoints points, P m := by
  induction points with
  | nil => exact h
  | cons n rest ih =>
    obtain ⟨hn, hrest⟩ := List.forall_mem_cons.mp h
    rw [composePoints]
    split
    · exact hP.forall_mem_composeAfter hn (fun m hm => absurd hm List.not_mem_nil) 0 hrest
    · exact List.forall_mem_cons.mpr ⟨hn, ih hrest⟩

/-- A text of characters of a kind is composed of characters of that kind. -/
theorem Survives.forall_mem_composed {text : List Char} (h : ∀ c ∈ text, P c.toNat) :
    ∀ c ∈ composed text, ∃ n, P n ∧ Char.ofNat n = c := by
  intro c hc
  rw [composed_eq_throughout] at hc
  obtain ⟨n, hn, rfl⟩ := List.mem_map.mp hc
  refine ⟨n, hP.forall_mem_composePoints (forall_mem_orderMarks ?_) n hn, rfl⟩
  intro m hm
  obtain ⟨d, hd, hm⟩ := List.mem_flatMap.mp hm
  exact hP.apart d.toNat (h d hd) m hm

end Survives

/-! ## Rows of code points -/

/-- The code points of a row. -/
def CaseRun.points (run : CaseRun) : List Nat :=
  (List.range' run.first (run.last + 1 - run.first)).filter run.covers

theorem CaseRun.mem_points {run : CaseRun} {n : Nat} :
    n ∈ run.points ↔ run.covers n = true := by
  rw [points, List.mem_filter, List.mem_range'_1, and_iff_right_iff_imp]
  intro h
  simp only [covers, Bool.and_eq_true, decide_eq_true_eq] at h
  omega

/-! ## The space, the dashes and the capitals -/

/-- The space, the dashes, the minus sign and the capitals. -/
def guardedPoints : List Nat :=
  [0x20, 0x2013, 0x2014, 0x2212] ++ (otherCapitals ++ caseRuns).flatMap CaseRun.points

/-- The guarded code points as bits, for a fast look at the tables. -/
def guardedBits : Nat := bitsOf guardedPoints

/-- What sweeps over the tables find: a character is guarded exactly when the base that it stands for
is, marks never are, and the guarded ones lie beside Hangul. -/
structure GuardedSweeps : Prop where
  pairs : canonicalPairs.all (fun e => guardedBits.testBit e.1 == guardedBits.testBit e.2.1 &&
    !guardedBits.testBit e.2.2) = true
  singles : canonicalSingles.all (fun e =>
    guardedBits.testBit e.1 == guardedBits.testBit e.2) = true
  hangul : guardedPoints.all (fun n => Nat.blt n 0x1100 || Nat.ble 0x1200 n && Nat.blt n 0xAC00 ||
    Nat.blt 0xD7A3 n) = true

theorem guardedSweeps : GuardedSweeps := by
  constructor <;> decide +kernel

/-- A character that stands for two is guarded as its base is, and its mark is not. -/
theorem guarded_of_pair {n a b : Nat} (h : (n, a, b) ∈ canonicalPairs) :
    (n ∈ guardedPoints ↔ a ∈ guardedPoints) ∧ b ∉ guardedPoints := by
  have hpair := List.all_eq_true.mp (guardedSweeps).pairs _ h
  rw [Bool.and_eq_true, beq_iff_eq, Bool.not_eq_true'] at hpair
  rw [← testBit_bitsOf, ← testBit_bitsOf, ← testBit_bitsOf]
  exact ⟨iff_of_eq (congrArg (· = true) hpair.1), Bool.eq_false_iff.mp hpair.2⟩

/-- A character that stands for another is guarded as that is. -/
theorem guarded_of_single {n a : Nat} (h : (n, a) ∈ canonicalSingles) :
    n ∈ guardedPoints ↔ a ∈ guardedPoints := by
  have hsingle := List.all_eq_true.mp (guardedSweeps).singles _ h
  rw [beq_iff_eq] at hsingle
  rw [← testBit_bitsOf, ← testBit_bitsOf]
  exact iff_of_eq (congrArg (· = true) hsingle)

/-- Neither jamo nor Hangul syllables are guarded. -/
theorem not_guarded_of_hangul {n : Nat}
    (h : 0x1100 ≤ n ∧ n < 0x1200 ∨ 0xAC00 ≤ n ∧ n ≤ 0xD7A3) : n ∉ guardedPoints := by
  intro hn
  have hout := List.all_eq_true.mp (guardedSweeps).hangul n hn
  simp only [Bool.or_eq_true, Bool.and_eq_true, Nat.blt_eq, Nat.ble_eq] at hout
  omega

theorem not_guarded_decomposePoint (depth : Nat) {n : Nat} (hn : n ∉ guardedPoints) :
    ∀ m ∈ decomposePoint depth n, m ∉ guardedPoints := by
  induction depth generalizing n with
  | zero => exact List.forall_mem_singleton.mpr hn
  | succ depth ih =>
    rw [decomposePoint]
    split
    · rename_i m a b hfind
      obtain rfl : m = n := by simpa using List.find?_some hfind
      obtain ⟨hbase, hmark⟩ := guarded_of_pair (List.mem_of_find?_eq_some hfind)
      exact List.forall_mem_append.mpr ⟨ih (fun ha => hn (hbase.mpr ha)), ih hmark⟩
    · split
      · rename_i m a hfind
        obtain rfl : m = n := by simpa using List.find?_some hfind
        exact ih fun ha => hn ((guarded_of_single (List.mem_of_find?_eq_some hfind)).mpr ha)
      · exact List.forall_mem_singleton.mpr hn

theorem not_guarded_decomposition {n : Nat} (hn : n ∉ guardedPoints) :
    ∀ m ∈ decomposition n, m ∉ guardedPoints := by
  rw [decomposition]
  split
  · exact List.forall_mem_singleton.mpr hn
  · unfold decomposeHangul
    split
    · intro m hm
      apply not_guarded_of_hangul
      simp only [Option.getD_some, List.mem_append, List.mem_cons, List.not_mem_nil, or_false] at hm
      split at hm
      · simp only [List.not_mem_nil, or_false] at hm
        omega
      · simp only [List.mem_cons, List.not_mem_nil, or_false] at hm
        omega
    · exact not_guarded_decomposePoint 5 hn

theorem not_guarded_compose? {a b n : Nat} (ha : a ∉ guardedPoints) (h : compose? a b = some n) :
    n ∉ guardedPoints := by
  rw [compose?] at h
  split at h
  · rename_i syllable hhangul
    obtain rfl : syllable = n := Option.some.inj h
    apply not_guarded_of_hangul
    unfold composeHangul at hhangul
    split at hhangul
    · have := Option.some.inj hhangul
      omega
    · split at hhangul
      · have := Option.some.inj hhangul
        omega
      · cases hhangul
  · obtain ⟨⟨m, first, second⟩, hfind, rfl⟩ := Option.map_eq_some_iff.mp h
    have hjoin := List.find?_some hfind
    simp only [Bool.and_eq_true, beq_iff_eq] at hjoin
    obtain rfl : first = a := hjoin.1.1
    exact fun hm => ha ((guarded_of_pair (List.mem_of_find?_eq_some hfind)).1.mp hm)

theorem survives_not_guarded : Survives (· ∉ guardedPoints) where
  apart _ hn := not_guarded_decomposition hn
  together _ _ _ ha _ h := not_guarded_compose? ha h

/-- The character is not guarded, unless it is the space. -/
def Unguarded (c : Char) : Prop := c ≠ ' ' → c.toNat ∉ guardedPoints

/-- A text without guarded characters has none when it is composed. -/
theorem not_guarded_composed {text : List Char} (h : ∀ c ∈ text, c.toNat ∉ guardedPoints) :
    ∀ c ∈ composed text, c.toNat ∉ guardedPoints := by
  intro c hc
  obtain ⟨n, hn, rfl⟩ := survives_not_guarded.forall_mem_composed h c hc
  rcases toNat_ofNat_cases n with hpoint | hzero
  · rwa [hpoint]
  · rw [hzero]
    exact fun hnull => absurd (testBit_bitsOf.mpr hnull) (by decide +kernel)

/-- A text without guarded characters but the space stays without, and keeps its spaces, when it is
composed. -/
theorem unguarded_composed (text : List Char) (h : ∀ c ∈ text, Unguarded c) :
    (∀ c ∈ composed text, Unguarded c) ∧ (composed text).count ' ' = text.count ' ' := by
  have hsolid {u : List Char} (hu : ∀ c ∈ u, Unguarded c) (hspace : ' ' ∉ u) :
      (∀ c ∈ composed u, Unguarded c) ∧ ' ' ∉ composed u := by
    have hplain := not_guarded_composed fun c hc => hu c hc fun heq => hspace (heq ▸ hc)
    exact ⟨fun c hc _ => hplain c hc, fun hc => hplain ' ' hc (by simp [guardedPoints])⟩
  induction hn : text.length using Nat.strongRecOn generalizing text with
  | ind n ih =>
    by_cases hspace : ' ' ∈ text
    · obtain ⟨u, v, rfl, hu⟩ := List.eq_append_cons_of_mem hspace
      obtain ⟨hleft, hright⟩ := List.forall_mem_append.mp h
      obtain ⟨hfirst, hnone⟩ := hsolid hleft hu
      obtain ⟨hrest, hcount⟩ := ih v.length (by rw [← hn]; simp; omega) v
        (List.forall_mem_cons.mp hright).2 rfl
      rw [composed_append_space]
      refine ⟨List.forall_mem_append.mpr ⟨hfirst, List.forall_mem_cons.mpr ⟨?_, hrest⟩⟩, ?_⟩
      · exact fun hne => absurd rfl hne
      · rw [List.count_append, List.count_append, List.count_cons, List.count_cons, hcount,
          List.count_eq_zero_of_not_mem hu, List.count_eq_zero_of_not_mem hnone]
    · obtain ⟨hall, hnone⟩ := hsolid h hspace
      exact ⟨hall, by rw [List.count_eq_zero_of_not_mem hspace,
        List.count_eq_zero_of_not_mem hnone]⟩

end CalcSpeech.Unicode
