import CalcSpeech.Proofs.Transcript
import CalcSpeech.Proofs.Vocabulary.Spoken

/-!
# Composing word by word

A text below the first combining mark is composed already, which is why composing passes it over;
going through with it would not change it either (`composed_eq_throughout`). A space never joins
what stands around it, so that a row of words is composed word by word (`composed_join`), and one of
small composed words is read as it is (`Transcript.prepare_join`).
-/

namespace CalcSpeech.Unicode

open Text

/-- A text taken apart, ordered and put together again, without a look at whether that is needed. -/
def composedThroughout (text : List Char) : List Char :=
  (composePoints (orderMarks (text.flatMap (decomposition ·.toNat)))).map Char.ofNat

/-! ## Below the first combining mark -/

/-- The characters below the first combining mark that stand for two others. -/
def lowPairs : List (Nat × Nat × Nat) := canonicalPairs.filter (Nat.blt ·.1 0x300)

/-- The first character of the table that stands for `a` followed by `b`, or zero. -/
def joinOf (a b : Nat) : Nat :=
  canonicalPairs.foldr (fun e later =>
    bif Nat.beq e.2.1 a && Nat.beq e.2.2 b then e.1 else later) 0

/-- The class of the mark that a character takes last, zero where it takes none. -/
def lastClass (n : Nat) : Nat :=
  ((canonicalPairs.find? (·.1 == n)).map fun e => combiningClass e.2.2).getD 0

/-- What sweeps over the pairs below the first combining mark find. -/
structure LowSweeps : Prop where
  marks : lowPairs.all (fun e => Nat.blt e.2.1 0x300 && Nat.ble 0x300 e.2.2 &&
    Nat.blt e.2.2 0x340) = true
  joins : lowPairs.all (fun e => Nat.beq (joinOf e.2.1 e.2.2) e.1) = true
  order : lowPairs.all (fun e => Nat.blt e.2.1 0xC0 ||
    Nat.ble (lastClass e.2.1) (combiningClass e.2.2)) = true
  brought : compositionExclusions.all (Nat.ble 0x300) = true
  singles : canonicalSingles.all (fun e => Nat.ble 0x300 e.1) = true

theorem lowSweeps : LowSweeps := by
  constructor <;> decide +kernel

/-- What the table gives for two characters is what they are joined to. -/
theorem compose?_of_joinOf {a b n : Nat} (ha : a < 0x300) (hn : n ≠ 0) (hlow : n < 0x300)
    (h : joinOf a b = n) : compose? a b = some n := by
  have hhangul : composeHangul a b = none := by
    unfold composeHangul
    rw [if_neg (by omega), if_neg (by omega)]
  have hbrought : n ∉ compositionExclusions := by
    intro hmem
    have hhigh := Nat.ble_eq.mp (List.all_eq_true.mp (lowSweeps).brought n hmem)
    omega
  have hfind (table : List (Nat × Nat × Nat)) (h : table.foldr (fun e later =>
      bif Nat.beq e.2.1 a && Nat.beq e.2.2 b then e.1 else later) 0 = n) :
      (table.find? fun e =>
        e.2.1 == a && e.2.2 == b && !compositionExclusions.contains e.1).map (·.1) = some n := by
    induction table with
    | nil => exact absurd h.symm hn
    | cons e table ih =>
      obtain ⟨c, first, second⟩ := e
      rw [List.foldr_cons] at h
      by_cases hpair : first = a ∧ second = b
      · obtain ⟨rfl, rfl⟩ := hpair
        obtain rfl : c = n := by simpa using h
        rw [List.find?_cons_of_pos (by simp [hbrought])]
        rfl
      · have hno : (Nat.beq first a && Nat.beq second b) = false := by
          rw [← Bool.not_eq_true, Bool.and_eq_true, Nat.beq_eq, Nat.beq_eq]
          exact hpair
        simp only [hno, cond_false] at h
        rw [List.find?_cons_of_neg]
        · exact ih h
        · simp only [Bool.and_eq_true, beq_iff_eq]
          exact fun hboth => hpair hboth.1
  rw [compose?, hhangul]
  exact hfind canonicalPairs h

/-- Below the first combining mark a character stands for itself, or for a base below that mark and
a mark that join to it. -/
theorem find?_low {n : Nat} (hn : n < 0x300) :
    canonicalPairs.find? (·.1 == n) = none ∨
      ∃ a b, canonicalPairs.find? (·.1 == n) = some (n, a, b) ∧ a < 0x300 ∧ b ∉ tableKeys ∧
        compose? a b = some n ∧ lastClass a ≤ combiningClass b := by
  rcases hfind : canonicalPairs.find? (·.1 == n) with _ | ⟨m, a, b⟩
  · exact Or.inl hfind
  · obtain rfl : m = n := by simpa using List.find?_some hfind
    have hmem := List.mem_of_find?_eq_some hfind
    have hpair : (m, a, b) ∈ lowPairs :=
      List.mem_filter.mpr ⟨hmem, (Nat.blt_eq).mpr hn⟩
    have hmarks := List.all_eq_true.mp (lowSweeps).marks _ hpair
    have hjoin := Nat.beq_eq.mp (List.all_eq_true.mp (lowSweeps).joins _ hpair)
    have horder := List.all_eq_true.mp (lowSweeps).order _ hpair
    simp only [Bool.and_eq_true, Bool.or_eq_true, Nat.blt_eq, Nat.ble_eq] at hmarks horder
    have hpos : m ≠ 0 := by
      have := le_of_tableKey (List.mem_append_left _ (List.mem_map_of_mem hmem) : m ∈ tableKeys)
      omega
    refine Or.inr ⟨a, b, hfind, hmarks.1.1, not_tableKey_of_mark (Or.inl ⟨hmarks.1.2, hmarks.2⟩),
      compose?_of_joinOf hmarks.1.1 hpos hn hjoin, horder.elim (fun hlow => ?_) id⟩
    -- a base that low takes no mark
    have hnone : canonicalPairs.find? (·.1 == a) = none := by
      rw [List.find?_eq_none]
      intro e he hea
      have hkey : a ∈ tableKeys :=
        List.mem_append_left _ (List.mem_map.mpr ⟨e, he, beq_iff_eq.mp hea⟩)
      have := le_of_tableKey hkey
      omega
    rw [lastClass, hnone]
    exact Nat.zero_le _

/-- A character below the first combining mark is taken apart into one that is, with marks. -/
theorem decomposePoint_low {n : Nat} (hn : n < 0x300) (depth : Nat) :
    decomposePoint depth n = [n] ∨ ∃ a b d, decomposePoint depth n = decomposePoint d a ++ [b] ∧
      d < depth ∧ a < 0x300 ∧ compose? a b = some n ∧ lastClass a ≤ combiningClass b ∧
      lastClass n = combiningClass b := by
  cases depth with
  | zero => exact Or.inl rfl
  | succ depth =>
    rcases find?_low hn with hnone | ⟨a, b, hfind, ha, hb, hjoin, horder⟩
    · have hsingles : canonicalSingles.find? (·.1 == n) = none := by
        rw [List.find?_eq_none]
        intro e he hen
        have hhigh := Nat.ble_eq.mp (List.all_eq_true.mp (lowSweeps).singles e he)
        have := beq_iff_eq.mp hen
        omega
      rw [decomposePoint, hnone]
      simp only [hsingles, true_or]
    · refine Or.inr ⟨a, b, depth, ?_, depth.lt_succ_self, ha, hjoin, horder, ?_⟩
      · rw [decomposePoint, hfind]
        simp only [decomposePoint_of_not_key hb]
      · rw [lastClass, hfind]
        rfl

/-- What a character below the first combining mark is taken apart into is in order already. -/
theorem orderMarks_decomposePoint (depth : Nat) {n : Nat} (hn : n < 0x300) {points : List Nat}
    (h : ∀ m ∈ (orderMarks points).head?, combiningClass m = 0 ∨ lastClass n ≤ combiningClass m) :
    orderMarks (decomposePoint depth n ++ points) =
      decomposePoint depth n ++ orderMarks points := by
  induction depth using Nat.strongRecOn generalizing n points with
  | ind depth ih =>
    rcases decomposePoint_low hn depth with hself | ⟨a, b, d, hparts, hd, ha, -, horder, hlast⟩
    · rw [hself]
      exact insertByClass_of_class_zero (combiningClass_of_lt hn) _
    · have hstays : orderMarks (b :: points) = b :: orderMarks points := by
        show insertByClass b (orderMarks points) = _
        cases hpoints : orderMarks points with
        | nil => rfl
        | cons m rest =>
          have hm := h m (by rw [hpoints]; rfl)
          rw [insertByClass, if_neg (by omega)]
      have hreaches : ∀ m ∈ (orderMarks (b :: points)).head?,
          combiningClass m = 0 ∨ lastClass a ≤ combiningClass m := by
        intro m hm
        rw [hstays] at hm
        obtain rfl : b = m := by simpa using hm
        exact Or.inr horder
      have hbase := ih d hd ha hreaches
      rw [hparts, List.append_assoc, List.singleton_append, hbase, hstays]
      simp

/-- Put together again it is the character. -/
theorem composePoints_decomposePoint (depth : Nat) {n : Nat} (hn : n < 0x300)
    (points : List Nat) :
    composePoints (decomposePoint depth n ++ points) = composeAfter n [] 0 points := by
  induction depth using Nat.strongRecOn generalizing n points with
  | ind depth ih =>
    rcases decomposePoint_low hn depth with hself | ⟨a, b, d, hparts, hd, ha, hjoin, -⟩
    · rw [hself, List.singleton_append, composePoints, if_pos (combiningClass_of_lt hn)]
    · rw [hparts, List.append_assoc, List.singleton_append, ih d hd ha, composeAfter]
      simp [hjoin]

theorem exists_decomposePoint_cons (depth : Nat) {n : Nat} (hn : n < 0x300) :
    ∃ a rest, decomposePoint depth n = a :: rest ∧ a < 0x300 := by
  induction depth using Nat.strongRecOn generalizing n with
  | ind depth ih =>
    rcases decomposePoint_low hn depth with hself | ⟨a, b, d, hparts, hd, ha, -⟩
    · exact ⟨n, [], hself, hn⟩
    · obtain ⟨first, rest, hfirst, hlow⟩ := ih d hd ha
      exact ⟨first, rest ++ [b], by rw [hparts, hfirst]; rfl, hlow⟩

theorem exists_decomposition_low {n : Nat} (hn : n < 0x300) :
    ∃ depth, decomposition n = decomposePoint depth n := by
  by_cases hlatin : n < 0xC0
  · exact ⟨0, if_pos hlatin⟩
  · refine ⟨5, ?_⟩
    rw [decomposition, if_neg hlatin, decomposeHangul_of_not (by omega)]
    rfl

/-- A text below the first combining mark is the same when it has been taken apart, ordered and put
together. -/
theorem composePoints_low {points : List Nat} (h : ∀ n ∈ points, n < 0x300) :
    (∀ m ∈ (orderMarks (points.flatMap decomposition)).head?, m < 0x300) ∧
      composePoints (orderMarks (points.flatMap decomposition)) = points := by
  induction points with
  | nil => exact ⟨by simp [orderMarks], rfl⟩
  | cons n points ih =>
    obtain ⟨hn, hrest⟩ := List.forall_mem_cons.mp h
    obtain ⟨hhead, hcompose⟩ := ih hrest
    obtain ⟨depth, hparts⟩ := exists_decomposition_low hn
    obtain ⟨a, rest, hfirst, ha⟩ := exists_decomposePoint_cons depth hn
    have horder : orderMarks ((n :: points).flatMap decomposition) =
        decomposePoint depth n ++ orderMarks (points.flatMap decomposition) := by
      rw [List.flatMap_cons, hparts]
      exact orderMarks_decomposePoint depth hn fun m hm =>
        Or.inl (combiningClass_of_lt (hhead m hm))
    have hclear : Clear (orderMarks (points.flatMap decomposition)) := by
      cases hpoints : orderMarks (points.flatMap decomposition) with
      | nil => trivial
      | cons m rest =>
        have hm := hhead m (by rw [hpoints]; rfl)
        exact ⟨lone_of_lt hm, Or.inl (combiningClass_of_lt hm)⟩
    rw [horder]
    refine ⟨?_, ?_⟩
    · rw [hfirst]
      simpa using ha
    · rw [composePoints_decomposePoint depth hn, composeAfter_of_clear hclear, hcompose]
      rfl

/-- Passing over texts that need no composition changes nothing. -/
theorem composed_eq_throughout (text : List Char) : composed text = composedThroughout text := by
  unfold composed
  split
  · rename_i hlow
    rw [needsNoComposition, List.all_eq_true] at hlow
    have hpoints : ∀ n ∈ text.map Char.toNat, n < 0x300 := by
      intro n hn
      obtain ⟨c, hc, rfl⟩ := List.mem_map.mp hn
      simpa using hlow c hc
    have hsame := (composePoints_low hpoints).2
    rw [List.flatMap_map] at hsame
    rw [composedThroughout, hsame, List.map_map]
    exact (List.map_id'' (fun c => Char.ofNat_toNat c) text).symm
  · rfl

/-! ## Around a space -/

/-- Nothing is joined to a space. -/
theorem composeAfter_space (points : List Nat) (kept : List Nat) (highest : Nat) :
    composeAfter 0x20 kept highest points = 0x20 :: (kept.reverse ++ composePoints points) := by
  induction points generalizing kept highest with
  | nil => simp [composeAfter, composePoints]
  | cons n points ih =>
    simp only [composeAfter, compose?_space, ite_self, composePoints]
    split
    · rfl
    · rw [ih]
      simp

theorem composeAfter_append_space (base : Nat) (kept : List Nat) (highest : Nat)
    (points later : List Nat) : composeAfter base kept highest (points ++ 0x20 :: later) =
      composeAfter base kept highest points ++ 0x20 :: composePoints later := by
  have hclass : combiningClass 0x20 = 0 := combiningClass_of_lt (by decide)
  induction points generalizing base kept highest with
  | nil =>
    have hlone : compose? base 0x20 = none := lone_of_lt (by decide) base
    simp only [List.nil_append, composeAfter, hlone, ite_self, if_pos hclass]
    rw [composeAfter_space]
    simp
  | cons n points ih =>
    simp only [List.cons_append, composeAfter]
    split
    · exact ih _ _ _
    · split
      · rw [ih]
        simp
      · exact ih _ _ _

theorem composePoints_append_space (points later : List Nat) :
    composePoints (points ++ 0x20 :: later) =
      composePoints points ++ 0x20 :: composePoints later := by
  induction points with
  | nil =>
    show (if combiningClass 0x20 = 0 then composeAfter 0x20 [] 0 later else _) = _
    rw [if_pos (combiningClass_of_lt (by decide)), composeAfter_space]
    rfl
  | cons n points ih =>
    simp only [List.cons_append, composePoints]
    split
    · exact composeAfter_append_space n [] 0 points later
    · rw [ih]
      rfl

/-- No mark passes a space. -/
theorem orderMarks_append_space (points later : List Nat) :
    orderMarks (points ++ 0x20 :: later) = orderMarks points ++ 0x20 :: orderMarks later := by
  have hclass : combiningClass 0x20 = 0 := combiningClass_of_lt (by decide)
  have hinsert (n : Nat) (front : List Nat) :
      insertByClass n (front ++ 0x20 :: orderMarks later) =
        insertByClass n front ++ 0x20 :: orderMarks later := by
    induction front with
    | nil =>
      show (if 0 < combiningClass 0x20 ∧ _ then _ else n :: 0x20 :: orderMarks later) = _
      rw [if_neg (by omega)]
      rfl
    | cons m front ih =>
      simp only [List.cons_append, insertByClass]
      split
      · rw [ih]
        rfl
      · rfl
  induction points with
  | nil => exact insertByClass_of_class_zero hclass _
  | cons n points ih =>
    show insertByClass n (orderMarks (points ++ 0x20 :: later)) = _
    rw [ih, hinsert]
    rfl

/-- The texts on both sides of a space are composed one by one. -/
theorem composed_append_space (u v : List Char) :
    composed (u ++ ' ' :: v) = composed u ++ ' ' :: composed v := by
  have hspace : decomposition ' '.toNat = [0x20] := by decide
  simp only [composed_eq_throughout, composedThroughout, List.flatMap_append, List.flatMap_cons,
    hspace, List.singleton_append]
  rw [orderMarks_append_space, composePoints_append_space, List.map_append]
  rfl

/-- A row of words is composed word by word. -/
theorem composed_join (parts : List (List Char)) :
    composed (join [' '] parts) = join [' '] (parts.map composed) := by
  induction parts with
  | nil => rfl
  | cons t parts ih =>
    cases parts with
    | nil => rfl
    | cons u parts =>
      rw [join_cons_cons, composed_append_space, ih, List.map_cons, List.map_cons, List.map_cons,
        join_cons_cons]

end CalcSpeech.Unicode

namespace CalcSpeech.Transcript

open Unicode Text

/-- A row of small composed words without hyphens and dashes is read as it is. -/
theorem prepare_join {tokens : List (List Char)}
    (hwords : ∀ t ∈ tokens, composed t = t ∧ lowercase t = t)
    (hdash : ∀ t ∈ tokens, ∀ c ∈ t, plainDash c = c ∧ c ≠ '-') :
    prepare (join [' '] tokens) = join [' '] tokens := by
  have hmap {f : List Char → List Char} (hf : ∀ t ∈ tokens, f t = t) : tokens.map f = tokens := by
    rw [List.map_congr_left (g := id) hf, List.map_id]
  have hmem : ∀ c ∈ join [' '] tokens, plainDash c = c ∧ c ≠ '-' := by
    intro c hc
    rcases Vocabulary.mem_join hc with rfl | ⟨t, ht, hc⟩
    · decide
    · exact hdash t ht c hc
  have hplain : (join [' '] tokens).map plainDash = join [' '] tokens := by
    rw [List.map_congr_left (g := id) fun c hc => (hmem c hc).1, List.map_id]
  have hsplit := splitAtHyphens_append (u := join [' '] tokens) (fun h => (hmem _ h).2 rfl) none []
  rw [List.append_nil] at hsplit
  rw [prepare, composed_join, hmap fun t ht => (hwords t ht).1, lowercase_join,
    hmap fun t ht => (hwords t ht).2, hplain, hsplit]
  exact List.append_nil _

end CalcSpeech.Transcript
