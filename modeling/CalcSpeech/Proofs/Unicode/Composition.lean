import CalcSpeech.Unicode.Composition

/-!
# Texts that are composed already

Composing takes a text apart, orders its marks and puts it together again. A character is `Settled`
when it comes out of that as it went in: it is not taken apart, or it stands for a base and one
mark that give it back; and neither it nor its base ever joins what stands before it. Composing a
text of settled characters only orders its marks (`composed_eq_orderMarks`).

The marks that are ordered are those of the text itself. A mark that was taken off its base goes
back to it, since the marks that come between have smaller classes and never join a base.
-/

namespace CalcSpeech.Unicode

/-- A code point that is never joined to one before it. -/
def Lone (n : Nat) : Prop := ∀ base, compose? base n = none

/-- A code point that being taken apart and put together leaves as it is. -/
inductive Settled (n : Nat) : Prop
  | whole : decomposition n = [n] → Lone n → Settled n
  | pair (base mark : Nat) : decomposition n = [base, mark] → compose? base mark = some n →
      Lone base → combiningClass base = 0 → combiningClass n = 0 → Settled n

/-- The marks at the beginning of a text and the first base never join what stands before them. -/
def Clear : List Nat → Prop
  | [] => True
  | n :: rest => Lone n ∧ (combiningClass n = 0 ∨ Clear rest)

/-- Nothing joins the base in front of a clear text. -/
theorem composeAfter_of_clear {points : List Nat} (h : Clear points) (base : Nat)
    (kept : List Nat) (highest : Nat) :
    composeAfter base kept highest points = base :: (kept.reverse ++ composePoints points) := by
  induction points generalizing kept highest with
  | nil => simp [composeAfter, composePoints]
  | cons n rest ih =>
    obtain ⟨hlone, hrest⟩ := h
    have hnone : (if kept.isEmpty || highest < combiningClass n then compose? base n else none) =
        none := by rw [hlone base, ite_self]
    simp only [composeAfter, hnone, composePoints]
    by_cases hclass : combiningClass n = 0
    · rw [if_pos hclass, if_pos hclass]
    · rw [if_neg hclass, if_neg hclass, ih (hrest.resolve_left hclass)]
      simp

/-- A mark on the way past smaller ones leaves a text clear. -/
theorem clear_insertByClass {n : Nat} (hn : Lone n) {points : List Nat} (h : Clear points) :
    Clear (insertByClass n points) := by
  induction points with
  | nil => exact ⟨hn, Or.inr trivial⟩
  | cons next rest ih =>
    unfold insertByClass
    split
    · rename_i hpass
      obtain ⟨hnext, hrest⟩ := h
      exact ⟨hnext, Or.inr (ih (hrest.resolve_left (Nat.ne_of_gt hpass.1)))⟩
    · exact ⟨hn, Or.inr h⟩

/-- The mark of a pair finds its base, past the marks that were put in front of it. -/
theorem composeAfter_pair {n base mark : Nat} (hjoin : compose? base mark = some n)
    {points : List Nat} (h : Clear points) (kept : List Nat)
    (highest : Nat) (hreach : kept = [] ∨ highest < combiningClass mark) :
    composeAfter base kept highest (insertByClass mark points) =
      composeAfter n kept highest points := by
  -- the mark reaches the base from wherever it stands
  have hjoined (kept : List Nat) (highest : Nat) (rest : List Nat)
      (hreach : kept = [] ∨ highest < combiningClass mark) :
      composeAfter base kept highest (mark :: rest) = composeAfter n kept highest rest := by
    have hif : (if kept.isEmpty || highest < combiningClass mark then compose? base mark
        else none) = some n := by
      rw [if_pos (by rcases hreach with rfl | h <;> simp [*]), hjoin]
    rw [composeAfter]
    simp only [hif]
  induction points generalizing kept highest with
  | nil => exact hjoined kept highest [] hreach
  | cons next rest ih =>
    unfold insertByClass
    split
    · rename_i hpass
      obtain ⟨hnext, hrest⟩ := h
      have hrest := hrest.resolve_left (Nat.ne_of_gt hpass.1)
      have hzero : combiningClass next ≠ 0 := Nat.ne_of_gt hpass.1
      simp only [composeAfter, hnext base, hnext n, ite_self, if_neg hzero]
      exact ih hrest (next :: kept) (combiningClass next) (Or.inr hpass.2)
    · exact hjoined kept highest (next :: rest) hreach

/-- An ordered text and what it is composed to: the marks at the beginning are the same, and the
first base stands for a base. -/
inductive Composes : List Nat → List Nat → Prop
  | nil : Composes [] []
  | mark {n points result} : combiningClass n ≠ 0 → Composes points result →
      Composes (n :: points) (n :: result)
  | base {n m points result} : combiningClass n = 0 → combiningClass m = 0 →
      composePoints (n :: points) = m :: result → Composes (n :: points) (m :: result)

theorem Composes.composePoints_eq {points result : List Nat} (h : Composes points result) :
    composePoints points = result := by
  induction h with
  | nil => rfl
  | mark hn _ ih => rw [composePoints, if_neg hn, ih]
  | base _ _ hcompose => exact hcompose

/-- A mark may find its place before composing or behind it. -/
theorem Composes.insertByClass {points result : List Nat} (h : Composes points result) {n : Nat}
    (hn : combiningClass n ≠ 0) :
    Composes (insertByClass n points) (insertByClass n result) := by
  induction h with
  | nil => exact .mark hn .nil
  | @mark next points result hnext hrest ih =>
    unfold Unicode.insertByClass
    split
    · exact .mark hnext ih
    · exact .mark hn (.mark hnext hrest)
  | @base next m points result hnext hm hcompose =>
    have hstay (k : Nat) (rest : List Nat) (hk : combiningClass k = 0) :
        Unicode.insertByClass n (k :: rest) = n :: k :: rest := by
      rw [Unicode.insertByClass, if_neg (by omega)]
    rw [hstay next points hnext, hstay m result hm]
    exact .mark hn (.base hnext hm hcompose)

/-- A base stays in front of what follows it. -/
theorem insertByClass_of_class_zero {n : Nat} (hn : combiningClass n = 0) (points : List Nat) :
    insertByClass n points = n :: points := by
  cases points with
  | nil => rfl
  | cons next rest => rw [insertByClass, if_neg (by omega)]

/-- A text of settled code points, taken apart and ordered, is clear and composes to the text with
its own marks ordered. -/
theorem composes_orderMarks {points : List Nat} (h : ∀ n ∈ points, Settled n) :
    Clear (orderMarks (points.flatMap decomposition)) ∧
      Composes (orderMarks (points.flatMap decomposition)) (orderMarks points) := by
  -- from the back, since a mark moves towards the front
  induction points with
  | nil => exact ⟨trivial, .nil⟩
  | cons n rest ih =>
    obtain ⟨hclear, hcompose⟩ := ih fun m hm => h m (by simp [hm])
    show Clear (orderMarks (decomposition n ++ rest.flatMap decomposition)) ∧
      Composes (orderMarks (decomposition n ++ rest.flatMap decomposition))
        (insertByClass n (orderMarks rest))
    cases h n (by simp) with
    | whole hwhole hlone =>
      rw [hwhole]
      show Clear (insertByClass n (orderMarks (rest.flatMap decomposition))) ∧
        Composes (insertByClass n (orderMarks (rest.flatMap decomposition))) _
      refine ⟨clear_insertByClass hlone hclear, ?_⟩
      by_cases hn : combiningClass n = 0
      · rw [insertByClass_of_class_zero hn, insertByClass_of_class_zero hn]
        refine .base hn hn ?_
        rw [composePoints, if_pos hn, composeAfter_of_clear hclear, hcompose.composePoints_eq]
        rfl
      · exact hcompose.insertByClass hn
    | pair base mark hpair hjoin hlone hbase hn =>
      rw [hpair]
      show Clear (insertByClass base (insertByClass mark
          (orderMarks (rest.flatMap decomposition)))) ∧
        Composes (insertByClass base (insertByClass mark
          (orderMarks (rest.flatMap decomposition)))) _
      rw [insertByClass_of_class_zero hbase, insertByClass_of_class_zero hn]
      refine ⟨⟨hlone, Or.inl hbase⟩, .base hbase hn ?_⟩
      rw [composePoints, if_pos hbase, composeAfter_pair hjoin hclear [] 0 (Or.inl rfl),
        composeAfter_of_clear hclear, hcompose.composePoints_eq]
      rfl

/-- Settled bases in front of a text that is clear once it is ordered stay as they are. -/
theorem composePoints_append {points decomposed : List Nat} (h : ∀ n ∈ points, Settled n)
    (hbase : ∀ n ∈ points, combiningClass n = 0) (hclear : Clear (orderMarks decomposed)) :
    Clear (orderMarks (points.flatMap decomposition ++ decomposed)) ∧
      composePoints (orderMarks (points.flatMap decomposition ++ decomposed)) =
        points ++ composePoints (orderMarks decomposed) := by
  -- a base ends the run of marks behind it, whatever that composes to
  induction points with
  | nil => exact ⟨hclear, rfl⟩
  | cons n rest ih =>
    obtain ⟨hrest, hcompose⟩ := ih (fun m hm => h m (by simp [hm])) fun m hm => hbase m (by simp [hm])
    have hn := hbase n (by simp)
    rw [List.flatMap_cons, List.append_assoc]
    cases h n (by simp) with
    | whole hwhole hlone =>
      rw [hwhole]
      show Clear (insertByClass n (orderMarks (rest.flatMap decomposition ++ decomposed))) ∧
        composePoints (insertByClass n (orderMarks (rest.flatMap decomposition ++ decomposed))) = _
      rw [insertByClass_of_class_zero hn, composePoints, if_pos hn, composeAfter_of_clear hrest,
        hcompose]
      exact ⟨⟨hlone, Or.inl hn⟩, rfl⟩
    | pair base mark hpair hjoin hlone hzero _ =>
      rw [hpair]
      show Clear (insertByClass base (insertByClass mark
          (orderMarks (rest.flatMap decomposition ++ decomposed)))) ∧
        composePoints (insertByClass base (insertByClass mark
          (orderMarks (rest.flatMap decomposition ++ decomposed)))) = _
      rw [insertByClass_of_class_zero hzero, composePoints, if_pos hzero,
        composeAfter_pair hjoin hrest [] 0 (Or.inl rfl), composeAfter_of_clear hrest, hcompose]
      exact ⟨⟨hlone, Or.inl hzero⟩, rfl⟩

/-- Below the first combining mark every code point is a base. -/
theorem combiningClass_of_lt {n : Nat} (h : n < 0x300) : combiningClass n = 0 := by
  show (if n < 0x300 then 0 else _) = 0
  rw [if_pos h]

/-- Bases stay in their order. -/
theorem orderMarks_of_class_zero {points : List Nat} (h : ∀ n ∈ points, combiningClass n = 0) :
    orderMarks points = points := by
  induction points with
  | nil => rfl
  | cons n rest ih =>
    show insertByClass n (orderMarks rest) = n :: rest
    rw [ih fun m hm => h m (by simp [hm]), insertByClass_of_class_zero (h n (by simp))]

/-- Composing a text of settled characters orders its marks and does nothing else. -/
theorem composed_eq_orderMarks {text : List Char} (h : ∀ c ∈ text, Settled c.toNat) :
    composed text = (orderMarks (text.map Char.toNat)).map Char.ofNat := by
  unfold composed
  split
  · rename_i hlow
    rw [needsNoComposition, List.all_eq_true] at hlow
    have hzero : ∀ n ∈ text.map Char.toNat, combiningClass n = 0 := by
      intro n hn
      obtain ⟨c, hc, rfl⟩ := List.mem_map.mp hn
      exact combiningClass_of_lt (by simpa using hlow c hc)
    rw [orderMarks_of_class_zero hzero, List.map_map]
    exact (List.map_id'' (fun c => Char.ofNat_toNat c) text).symm
  · have hflat : text.flatMap (decomposition ·.toNat) =
        (text.map Char.toNat).flatMap decomposition := by rw [List.flatMap_map]
    have hsettled : ∀ n ∈ text.map Char.toNat, Settled n := by
      intro n hn
      obtain ⟨c, hc, rfl⟩ := List.mem_map.mp hn
      exact h c hc
    rw [hflat, (composes_orderMarks hsettled).2.composePoints_eq]

/-- A text behind settled bases below the first combining mark is composed by itself, if it is
clear once it is taken apart and ordered. -/
theorem composed_append {u text : List Char} (hu : ∀ c ∈ u, Settled c.toNat)
    (hlow : ∀ c ∈ u, c.toNat < 0x300)
    (hclear : Clear (orderMarks (text.flatMap (decomposition ·.toNat)))) :
    composed (u ++ text) = u ++ composed text := by
  have hall : u.all (·.toNat < 0x300) = true :=
    List.all_eq_true.mpr fun c hc => decide_eq_true (hlow c hc)
  have hneeds : needsNoComposition (u ++ text) = needsNoComposition text := by
    rw [needsNoComposition, List.all_append, hall, Bool.true_and]
    rfl
  have hpoints {P : Nat → Prop} (hP : ∀ c ∈ u, P c.toNat) : ∀ n ∈ u.map Char.toNat, P n := by
    intro n hn
    obtain ⟨c, hc, rfl⟩ := List.mem_map.mp hn
    exact hP c hc
  unfold composed
  rw [hneeds]
  split
  · rfl
  · have hflat : (u ++ text).flatMap (decomposition ·.toNat) =
        (u.map Char.toNat).flatMap decomposition ++ text.flatMap (decomposition ·.toNat) := by
      rw [List.flatMap_append, List.flatMap_map]
    have hcompose := (composePoints_append (hpoints hu)
      (hpoints fun c hc => combiningClass_of_lt (hlow c hc)) hclear).2
    rw [hflat, hcompose, List.map_append, List.map_map]
    exact congrArg (· ++ _) (List.map_id'' (fun c => Char.ofNat_toNat c) u)

/-- A text of settled bases is composed. -/
theorem composed_eq_self {text : List Char} (h : ∀ c ∈ text, Settled c.toNat)
    (hbase : ∀ c ∈ text, combiningClass c.toNat = 0) : composed text = text := by
  have hzero : ∀ n ∈ text.map Char.toNat, combiningClass n = 0 := by
    intro n hn
    obtain ⟨c, hc, rfl⟩ := List.mem_map.mp hn
    exact hbase c hc
  rw [composed_eq_orderMarks h, orderMarks_of_class_zero hzero, List.map_map]
  exact List.map_id'' (fun c => Char.ofNat_toNat c) text

end CalcSpeech.Unicode
