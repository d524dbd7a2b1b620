import CalcSpeech.Pattern.Shapes
import CalcSpeech.Proofs.Pattern.Rewriting

/-!
# What the shapes read, and where they end first

For the shapes that patterns are built from: which texts they read, and the first place in order
of preference at which they end. A run of characters ends first behind all of it
(`first_many_char`), and a row of patterns ends first where its patterns do, one behind the other
(`First.seq`). A text that comes first is what a search finds (`Prefers.matchAt?_eq`).
-/

namespace CalcSpeech.Pattern

open Unicode

section Runs

variable {f : Char → Bool} {b : Option Char} {w a : List Char} {k : List (Nat × List Char)}

/-- A repeated character reads the texts of such characters. -/
theorem reads_many_char : (many (char f)).Reads b w a k ↔ (∀ c ∈ w, f c = true) ∧ k = [] := by
  constructor
  · intro h
    generalize hp : many (char f) = p at h
    induction h with
    | done => simp
    | more _ hu _ _ ihv =>
      cases hp
      obtain ⟨hv, hkv⟩ := ihv rfl
      cases hu with
      | char hc => exact ⟨by simpa [hc] using hv, by simp [hkv]⟩
    | _ => cases hp
  · rintro ⟨hw, rfl⟩
    induction w generalizing b with
    | nil => exact .done
    | cons c w ih =>
      have hc : f c = true := hw c (by simp)
      have hrest := ih (b := some c) (fun d hd => hw d (by simp [hd]))
      exact .more (u := [c]) (by simp) (.char hc) hrest

/-- A character once or more reads the texts of such characters that are not empty. -/
theorem reads_atLeastOne_char :
    (atLeastOne (char f)).Reads b w a k ↔ w ≠ [] ∧ (∀ c ∈ w, f c = true) ∧ k = [] := by
  unfold atLeastOne
  constructor
  · intro h
    cases h with
    | seq hu hv =>
      obtain ⟨hall, rfl⟩ := reads_many_char.mp hv
      cases hu with
      | char hc => exact ⟨by simp, by simpa [hc] using hall, rfl⟩
  · rintro ⟨hne, hall, rfl⟩
    cases w with
    | nil => exact absurd rfl hne
    | cons c w =>
      have hrest : (many (char f)).Reads (some c) w a [] :=
        reads_many_char.mpr ⟨fun d hd => hall d (by simp [hd]), rfl⟩
      exact .seq (u := [c]) (.char (hall c (by simp))) hrest

theorem opens_atLeastOne_char : (atLeastOne (char f)).Opens f := opens_char.seq

/-- A gap reads the texts of blanks that are not empty. -/
theorem reads_gap :
    gap.Reads b w a k ↔ w ≠ [] ∧ (∀ c ∈ w, isBlank c = true) ∧ k = [] :=
  reads_atLeastOne_char

theorem reads_just {c : Char} : (just c).Reads b w a k ↔ w = [c] ∧ k = [] := by
  constructor
  · intro h
    cases h with
    | char hc => exact ⟨by rw [beq_iff_eq.mp hc], rfl⟩
  · rintro ⟨rfl, rfl⟩
    exact .char (beq_self_eq_true c)

theorem reads_empty : empty.Reads b w a k ↔ w = [] ∧ k = [] := by
  constructor
  · intro h
    cases h
    exact ⟨rfl, rfl⟩
  · rintro ⟨rfl, rfl⟩
    exact .empty

/-- What may be left out is read, or nothing is. -/
theorem reads_optional {p : Pattern} :
    (optional p).Reads b w a k ↔ p.Reads b w a k ∨ w = [] ∧ k = [] := by
  unfold optional
  constructor
  · intro h
    cases h with
    | left h => exact Or.inl h
    | right h => exact Or.inr (reads_empty.mp h)
  · rintro (h | h)
    · exact .left h
    · exact .right (reads_empty.mpr h)

/-- One of several patterns reads what any of them reads. -/
theorem reads_oneOf {ps : List Pattern} :
    (oneOf ps).Reads b w a k ↔ ∃ p ∈ ps, p.Reads b w a k := by
  induction ps with
  | nil =>
    constructor
    · intro h
      cases h
    · rintro ⟨p, hp, -⟩
      cases hp
  | cons p ps ih =>
    cases ps with
    | nil => simp [oneOf]
    | cons q ps =>
      have hsplit : (∃ r ∈ p :: q :: ps, r.Reads b w a k) ↔
          p.Reads b w a k ∨ ∃ r ∈ q :: ps, r.Reads b w a k := by
        simp only [List.mem_cons, or_and_right, exists_or, exists_eq_left]
      rw [hsplit, ← ih]
      show (alt p (oneOf (q :: ps))).Reads b w a k ↔ _
      constructor
      · intro h
        cases h with
        | left h => exact Or.inl h
        | right h => exact Or.inr h
      · rintro (h | h)
        · exact .left h
        · exact .right h

/-- Patterns in a row read what the first reads and then what the others read. -/
theorem reads_inOrder_cons {p : Pattern} {ps : List Pattern} {b : Option Char} {w a : List Char}
    {k : List (Nat × List Char)} :
    (inOrder (p :: ps)).Reads b w a k ↔ ∃ u v ku kv, w = u ++ v ∧ k = kv ++ ku ∧
      p.Reads b u (v ++ a) ku ∧ (inOrder ps).Reads (behind b u) v a kv := by
  cases ps with
  | nil =>
    show p.Reads b w a k ↔ _
    constructor
    · intro h
      exact ⟨w, [], k, [], by simp, rfl, h, .empty⟩
    · rintro ⟨u, v, ku, kv, rfl, rfl, hu, hv⟩
      obtain ⟨rfl, rfl⟩ := reads_empty.mp hv
      simpa using hu
  | cons q ps =>
    show (seq p (inOrder (q :: ps))).Reads b w a k ↔ _
    constructor
    · intro h
      cases h with
      | seq hu hv => exact ⟨_, _, _, _, rfl, rfl, hu, hv⟩
    · rintro ⟨u, v, ku, kv, rfl, rfl, hu, hv⟩
      exact .seq hu hv

/-- One of several patterns needs what each of them needs. -/
theorem needsAt_oneOf {ps : List Pattern} {Q : Option Char → List Char → Prop}
    (h : ∀ p ∈ ps, p.NeedsAt Q) : (oneOf ps).NeedsAt Q := by
  intro b w a k hr
  obtain ⟨p, hp, hread⟩ := reads_oneOf.mp hr
  exact h p hp b w a k hread

/-- Patterns in a row need what any of them needs. -/
theorem needsAt_inOrder {p : Pattern} {ps : List Pattern} {Q : Option Char → List Char → Prop}
    (hp : p ∈ ps) (h : p.NeedsAt Q) : (inOrder ps).NeedsAt Q := by
  induction ps with
  | nil => cases hp
  | cons q ps ih =>
    cases ps with
    | nil =>
      rw [List.mem_singleton] at hp
      rw [hp] at h
      exact h
    | cons r ps =>
      rcases List.mem_cons.mp hp with rfl | hp
      · exact h.seq_left
      · exact (ih hp).seq_right

end Runs

/-! ## What is kept -/

/-- A pattern keeps stretches under the numbers of its groups only. -/
theorem Reads.index_mem {p : Pattern} {b : Option Char} {w a : List Char}
    {k : List (Nat × List Char)} (h : p.Reads b w a k) : ∀ g ∈ k, g.1 ∈ p.groupIndices := by
  induction h with
  | empty | boundary | char | done =>
    intro g hg
    cases hg
  | seq _ _ ihu ihv =>
    intro g hg
    rcases List.mem_append.mp hg with hg | hg
    · exact List.mem_append_right _ (ihv g hg)
    · exact List.mem_append_left _ (ihu g hg)
  | left _ ih =>
    intro g hg
    exact List.mem_append_left _ (ih g hg)
  | right _ ih =>
    intro g hg
    exact List.mem_append_right _ (ih g hg)
  | more _ _ _ ihu ihv =>
    intro g hg
    rcases List.mem_append.mp hg with hg | hg
    · exact ihv g hg
    · exact ihu g hg
  | group _ ih =>
    intro g hg
    rcases List.mem_cons.mp hg with rfl | hg
    · exact List.mem_cons_self
    · exact List.mem_cons_of_mem _ (ih g hg)
  | ahead _ _ ih => exact ih

/-- A pattern without groups keeps nothing. -/
theorem Reads.kept_eq_nil {p : Pattern} {b : Option Char} {w a : List Char}
    {k : List (Nat × List Char)} (h : p.Reads b w a k) (hp : p.groupIndices = []) : k = [] := by
  rw [List.eq_nil_iff_forall_not_mem]
  intro g hg
  have hindex := h.index_mem g hg
  rw [hp] at hindex
  exact List.not_mem_nil hindex

/-- A group around a pattern that keeps nothing. -/
theorem reads_group {p : Pattern} (hp : p.groupIndices = []) {i : Nat} {b : Option Char}
    {w a : List Char} {k : List (Nat × List Char)} :
    (group i p).Reads b w a k ↔ p.Reads b w a [] ∧ k = [(i, w)] := by
  constructor
  · intro h
    cases h with
    | group h =>
      obtain rfl := h.kept_eq_nil hp
      exact ⟨h, rfl⟩
  · intro ⟨h, hk⟩
    rw [hk]
    exact .group h

/-! ## The place that comes first -/

/-- Of the places where a match from `s` can end, `t` is preferred to all others. -/
def First (p : Pattern) (s t : Spot) : Prop := (p.spots s).head? = some t

section First

variable {p q : Pattern} {f : Char → Bool} {s t u : Spot}

theorem first_of_spots (others : List Spot) (h : p.spots s = t :: others) : p.First s t := by
  rw [First, h]
  rfl

/-- Where all places are one, that one comes first. -/
theorem first_of_forall (hne : p.spots s ≠ []) (h : ∀ o ∈ p.spots s, o = t) : p.First s t := by
  cases hs : p.spots s with
  | nil => exact absurd hs hne
  | cons o others => rw [First, hs, h o (by rw [hs]; simp)]; rfl

/-- The first place behind the first place of one pattern comes first for both in a row. -/
theorem First.seq (hp : p.First s t) (hq : q.First t u) : (seq p q).First s u := by
  obtain ⟨others, hs⟩ := List.head?_eq_some_iff.mp hp
  obtain ⟨more, ht⟩ := List.head?_eq_some_iff.mp hq
  exact first_of_spots (more ++ others.flatMap q.spots) (by
    rw [spots, hs, List.flatMap_cons, ht, List.cons_append])

theorem First.left (hp : p.First s t) : (alt p q).First s t := by
  obtain ⟨others, hs⟩ := List.head?_eq_some_iff.mp hp
  exact first_of_spots (others ++ q.spots s) (by rw [spots, hs, List.cons_append])

theorem First.right (hp : p.spots s = []) (hq : q.First s t) : (alt p q).First s t := by
  rw [First, spots, hp, List.nil_append]
  exact hq

theorem First.group (h : p.First s t) (i : Nat) : (group i p).First s (t.keep i s) := by
  obtain ⟨others, hs⟩ := List.head?_eq_some_iff.mp h
  exact first_of_spots (others.map (·.keep i s)) (by rw [spots, hs, List.map_cons])

/-- What cannot be read is left out. -/
theorem first_optional_self (h : p.spots s = []) : (optional p).First s s :=
  First.right h rfl

theorem first_char {c : Char} {a : List Char} (hc : f c = true) (hs : s.rest = c :: a) :
    (char f).First s (past s [c] a []) := by
  rw [First, spots, hs]
  simp only [hc, if_true]
  rfl

theorem first_just {c : Char} {a : List Char} (hs : s.rest = c :: a) :
    (just c).First s (past s [c] a []) :=
  first_char (beq_self_eq_true c) hs

/-- A row of characters that pass the test ends first behind all of them. -/
theorem head?_spotsMany_char {w : List Char} (hw : ∀ c ∈ w, f c = true) {a : List Char}
    (ha : a.head?.any f = false) (left : List Char) (hleft : w.length ≤ left.length) (s : Spot)
    (hs : s.rest = w ++ a) :
    (spotsMany (char f).spots left s).head? = some (past s w a []) := by
  induction w generalizing left s with
  | nil =>
    obtain rfl : s.rest = a := hs
    cases left with
    | nil => rfl
    | cons d left =>
      rw [spotsMany, opens_char.spots_eq_nil (by rw [ha]; exact Bool.false_ne_true)]
      rfl
  | cons c w ih =>
    cases left with
    | nil => exact absurd hleft (by simp)
    | cons d left =>
      have hc : f c = true := hw c (by simp)
      have hstep : (char f).spots s = [s.advance c (w ++ a)] := by
        rw [spots, hs]
        simp [hc]
      have hlater : s.offset < (s.advance c (w ++ a)).offset := Nat.lt_succ_self _
      have hrow := ih (fun e he => hw e (by simp [he])) left (Nat.le_of_succ_le_succ hleft)
        (s.advance c (w ++ a)) rfl
      have hpast : past (s.advance c (w ++ a)) w a [] = past s (c :: w) a [] := by
        simp [past, Spot.advance, Nat.add_comm, Nat.add_left_comm]
      obtain ⟨others, hothers⟩ := List.head?_eq_some_iff.mp hrow
      rw [spotsMany, hstep, List.filter_cons_of_pos (by simpa using hlater), List.filter_nil,
        List.flatMap_cons, List.flatMap_nil, List.append_nil, hothers, hpast]
      rfl

/-- A repeated character ends first behind the whole run. -/
theorem first_many_char {w a : List Char} (hw : ∀ c ∈ w, f c = true)
    (ha : a.head?.any f = false) (hs : s.rest = w ++ a) :
    (many (char f)).First s (past s w a []) :=
  head?_spotsMany_char hw ha s.rest (by rw [hs]; simp) s hs

/-- A character once or more ends first behind the whole run. -/
theorem first_atLeastOne_char {w a : List Char} (hne : w ≠ []) (hw : ∀ c ∈ w, f c = true)
    (ha : a.head?.any f = false) (hs : s.rest = w ++ a) :
    (atLeastOne (char f)).First s (past s w a []) := by
  cases w with
  | nil => exact absurd rfl hne
  | cons c w =>
    have hfirst : (char f).First s (past s [c] (w ++ a) []) := first_char (hw c (by simp)) hs
    have hrest : (many (char f)).First (past s [c] (w ++ a) [])
        (past (past s [c] (w ++ a) []) w a []) :=
      first_many_char (fun d hd => hw d (by simp [hd])) ha rfl
    rw [past_past] at hrest
    exact hfirst.seq hrest

/-- The preferred match is the one that ends at the first place, if it reads something. -/
theorem matchAt?_of_first {b : Option Char} {w a : List Char} {k : List (Nat × Stretch)}
    (hne : w ≠ []) (h : p.First ⟨0, b, w ++ a, []⟩ (past ⟨0, b, w ++ a, []⟩ w a k)) :
    p.matchAt? b (w ++ a) = some ⟨w, texts k⟩ := by
  obtain ⟨others, hs⟩ := List.head?_eq_some_iff.mp h
  have hpos : 0 < (past ⟨0, b, w ++ a, []⟩ w a k).offset := by
    have := List.length_pos_iff.mpr hne
    simpa [past] using this
  rw [matchAt?, run_eq, hs, List.findSome?_cons, if_pos hpos]
  simp [past, texts]

end First

/-! ## The text that comes first -/

/-- Of the texts that can be read between `b` and `a`, the text `w` is preferred to all others, and
the stretches `k` are kept on the way. -/
def Prefers (p : Pattern) (b : Option Char) (w a : List Char) (k : List (Nat × List Char)) : Prop :=
  ∀ o g, ∃ kept, texts kept = k ∧ p.First ⟨o, b, w ++ a, g⟩ (past ⟨o, b, w ++ a, g⟩ w a kept)

section Prefers

variable {p q : Pattern} {b : Option Char} {u v w a : List Char} {k l : List (Nat × List Char)}

/-- A first place without stretches kept makes a text preferred. -/
theorem prefers_of_first
    (h : ∀ s : Spot, s.before = b → s.rest = w ++ a → p.First s (past s w a [])) :
    p.Prefers b w a [] :=
  fun _ _ => ⟨[], rfl, h _ rfl rfl⟩

theorem Prefers.seq (hp : p.Prefers b u (v ++ a) k) (hq : q.Prefers (behind b u) v a l) :
    (seq p q).Prefers b (u ++ v) a (l ++ k) := by
  intro o g
  obtain ⟨ku, hku, hu⟩ := hp o g
  obtain ⟨kv, hkv, hv⟩ := hq (o + u.length) (ku ++ g)
  refine ⟨kv ++ ku, by rw [texts_append, hku, hkv], ?_⟩
  rw [← past_row, List.append_assoc]
  exact First.seq hu hv

theorem Prefers.group (h : p.Prefers b w a k) (i : Nat) :
    (group i p).Prefers b w a ((i, w) :: k) := by
  intro o g
  obtain ⟨kept, hkept, hw⟩ := h o g
  refine ⟨(i, ⟨w ++ a, w.length⟩) :: kept, ?_, ?_⟩
  · show (i, Stretch.text ⟨w ++ a, w.length⟩) :: texts kept = _
    rw [hkept]
    simp [Stretch.text]
  · have hfirst := hw.group i
    simpa [Spot.keep, Spot.stretch, past] using hfirst

/-- Of two patterns the left one goes first. -/
theorem Prefers.left (h : p.Prefers b w a k) : (alt p q).Prefers b w a k := by
  intro o g
  obtain ⟨kept, hkept, hw⟩ := h o g
  exact ⟨kept, hkept, hw.left⟩

/-- What can be read is not left out. -/
theorem prefers_optional (h : p.Prefers b w a k) : (optional p).Prefers b w a k := h.left

/-- What cannot be read is left out. -/
theorem prefers_optional_nil (h : ∀ w a' k, a = w ++ a' → ¬ p.Reads b w a' k) :
    (optional p).Prefers b [] a [] := by
  apply prefers_of_first
  intro s hb hs
  rw [past_nil (a := a) hs]
  refine first_optional_self (spots_eq_nil fun w a' k hw => ?_)
  rw [hb]
  exact h w a' k (hs.symm.trans hw)

/-- At the end of a text what needs something is left out. -/
theorem NeedsAt.prefers_optional_nil {Q : Option Char → List Char → Prop} (h : p.NeedsAt Q) :
    (optional p).Prefers b [] [] [] := by
  apply Pattern.prefers_optional_nil
  intro w a' k hw hr
  obtain ⟨u, v, huv, hne, -⟩ := h _ _ _ _ hr
  rw [(List.append_eq_nil_iff.mp hw.symm).1] at huv
  exact hne (List.append_eq_nil_iff.mp huv.symm).2

/-- Where the left of two patterns reads nothing the right one goes first. -/
theorem Prefers.right (hp : ∀ w' a' k, w ++ a = w' ++ a' → ¬ p.Reads b w' a' k)
    (hq : q.Prefers b w a k) : (alt p q).Prefers b w a k := by
  intro o g
  obtain ⟨kept, hkept, hw⟩ := hq o g
  exact ⟨kept, hkept, .right (spots_eq_nil fun w' a' k h => hp w' a' k h) hw⟩

/-- The rows of an item do not depend on the bound for their length. -/
theorem spotsMany_congr (p : Pattern) (left left' : List Char) {s : Spot}
    (h : s.rest.length ≤ left.length) (h' : s.rest.length ≤ left'.length) :
    spotsMany p.spots left s = spotsMany p.spots left' s := by
  have hshorter {s t : Spot} (ht : t ∈ (p.spots s).filter (s.offset < ·.offset)) :
      t.rest.length < s.rest.length := by
    obtain ⟨hmem, hlater⟩ := List.mem_filter.mp ht
    obtain ⟨w, kept, hw, hpast, -⟩ := ends_of_mem_spots p s t hmem
    have hoffset : t.offset = s.offset + w.length := by rw [hpast]; rfl
    have := of_decide_eq_true hlater
    rw [hw, List.length_append]
    omega
  have hnone {s : Spot} (hs : s.rest.length ≤ 0) (left : List Char) :
      spotsMany p.spots left s = [s] := by
    cases left with
    | nil => rfl
    | cons c left =>
      have hempty : (p.spots s).filter (s.offset < ·.offset) = [] := by
        rw [List.eq_nil_iff_forall_not_mem]
        intro t ht
        have := hshorter ht
        omega
      rw [spotsMany, hempty]
      rfl
  -- every item shortens the rest, so neither bound is ever reached
  induction left generalizing left' s with
  | nil => rw [hnone h, hnone h]
  | cons c left ih =>
    cases left' with
    | nil => rw [hnone h', hnone h']
    | cons c' left' =>
      rw [spotsMany, spotsMany]
      congr 1
      apply List.flatMap_congr
      intro t ht
      have := hshorter ht
      rw [List.length_cons] at h h'
      exact ih _ (by omega) (by omega)

/-- The first item and the first row behind it make the first row. -/
theorem head?_spotsMany_cons {c : Char} {left : List Char} {s t r : Spot} (hp : p.First s t)
    (hlater : s.offset < t.offset) (hrest : (spotsMany p.spots left t).head? = some r) :
    (spotsMany p.spots (c :: left) s).head? = some r := by
  obtain ⟨others, hs⟩ := List.head?_eq_some_iff.mp hp
  obtain ⟨more, ht⟩ := List.head?_eq_some_iff.mp hrest
  rw [spotsMany, hs, List.filter_cons_of_pos (by simpa using hlater), List.flatMap_cons, ht]
  rfl

/-- A row goes on with each item that can be read. -/
theorem prefers_many_cons (hne : u ≠ []) (hp : p.Prefers b u (v ++ a) k)
    (hrest : (many p).Prefers (behind b u) v a l) : (many p).Prefers b (u ++ v) a (l ++ k) := by
  intro o g
  obtain ⟨ku, hku, hu⟩ := hp o g
  obtain ⟨kv, hkv, hv⟩ := hrest (o + u.length) (ku ++ g)
  refine ⟨kv ++ ku, by rw [texts_append, hku, hkv], ?_⟩
  rw [past_row] at hv
  obtain ⟨c, u, rfl⟩ := List.exists_cons_of_ne_nil hne
  have hbound := spotsMany_congr p (v ++ a) (u ++ v ++ a)
    (s := ⟨o + (c :: u).length, behind b (c :: u), v ++ a, ku ++ g⟩) (Nat.le_refl _) (by simp)
  have hlater : o < o + (c :: u).length := Nat.lt_add_of_pos_right (Nat.succ_pos _)
  rw [First, spots, hbound] at hv
  rw [← List.append_assoc] at hu
  exact head?_spotsMany_cons hu hlater hv

/-- A row ends where no item can be read. -/
theorem prefers_many_nil (h : ∀ w a' k, a = w ++ a' → ¬ p.Reads b w a' k) :
    (many p).Prefers b [] a [] := by
  apply prefers_of_first
  intro s hb hs
  have hnone : p.spots s = [] := by
    refine spots_eq_nil fun w a' k hw => ?_
    rw [hb]
    exact h w a' k (hs.symm.trans hw)
  rw [past_nil (a := a) hs, First, spots]
  cases s.rest with
  | nil => rfl
  | cons c left =>
    rw [spotsMany, hnone]
    rfl

/-- A preferred text that is not empty is what a search finds. -/
theorem Prefers.matchAt?_eq (h : p.Prefers b w a k) (hne : w ≠ []) :
    p.matchAt? b (w ++ a) = some ⟨w, k⟩ := by
  obtain ⟨kept, hkept, hw⟩ := h 0 []
  rw [matchAt?_of_first hne hw, hkept]

/-- A preferred text is rewritten, and the search goes on behind it. -/
theorem Prefers.rewriteAfter_eq (h : p.Prefers b w a k) (hne : w ≠ [])
    (change : Match → List Char) : p.rewriteAfter change b (w ++ a) =
      change ⟨w, k⟩ ++ p.rewriteAfter change (behind b w) a :=
  rewriteAfter_found (m := ⟨w, k⟩) change (h.matchAt?_eq hne)

/-- With what may stand in front of it a pattern is looked for first, and then without. -/
theorem matchAt?_optional_seq (p q : Pattern) (b : Option Char) (rest : List Char) :
    (seq (optional p) q).matchAt? b rest = ((seq p q).matchAt? b rest).or (q.matchAt? b rest) := by
  simp only [matchAt?, run_eq, optional, spots, List.flatMap_append, List.flatMap_cons,
    List.flatMap_nil, List.append_nil, List.findSome?_append, Option.map_or]

/-- A pattern that begins with no blank and takes all of a text but the blanks at its ends has one
match there. -/
theorem matchesIn_eq_singleton (hp : p.Opens fun c => !isBlank c) {lead trail : List Char}
    {m : Match} (hlead : ∀ c ∈ lead, isBlank c = true) (htrail : ∀ c ∈ trail, isBlank c = true)
    (hm : p.matchAt? (behind none lead) (m.text ++ trail) = some m) :
    p.matchesIn (lead ++ m.text ++ trail) = [m] := by
  have hquiet {b : Option Char} {u a : List Char} (hu : ∀ c ∈ u, isBlank c = true) :
      p.Quiet b u a :=
    hp.quiet (nowhere_head fun c hc => by rw [hu c hc]; rfl)
  have hrest := matchesAfter_quiet (hquiet (b := behind (behind none lead) m.text) (a := []) htrail)
  rw [List.append_nil, matchesAfter_nil] at hrest
  rw [matchesIn_eq_matchesAfter, List.append_assoc, matchesAfter_quiet (hquiet hlead),
    matchesAfter_found hm, hrest]

theorem prefers_boundary (h : isWordBoundary b a.head? = true) : boundary.Prefers b [] a [] := by
  refine prefers_of_first fun s hb hs => ?_
  rw [past_nil (a := a) hs, First, spots, hb, hs, List.nil_append, if_pos h]
  rfl

theorem prefers_char {f : Char → Bool} {c : Char} (hc : f c = true) :
    (char f).Prefers b [c] a [] :=
  prefers_of_first fun _ _ hs => first_char hc hs

theorem prefers_just {c : Char} : (just c).Prefers b [c] a [] := prefers_char (beq_self_eq_true c)

theorem prefers_loose (hw : ∀ c ∈ w, isBlank c = true) (ha : a.head?.any isBlank = false) :
    loose.Prefers b w a [] :=
  prefers_of_first fun _ _ hs => first_many_char hw ha hs

theorem prefers_gap (hne : w ≠ []) (hw : ∀ c ∈ w, isBlank c = true)
    (ha : a.head?.any isBlank = false) : gap.Prefers b w a [] :=
  prefers_of_first fun _ _ hs => first_atLeastOne_char hne hw ha hs

theorem prefers_space (ha : a.head?.any isBlank = false) : gap.Prefers b [' '] a [] :=
  prefers_gap (List.cons_ne_nil _ _) (by decide) ha

end Prefers

/-! ## A character of one kind several times -/

section Times

variable {f : Char → Bool} {b : Option Char} {w a : List Char}

theorem of_reads_times {n : Nat} {k : List (Nat × List Char)}
    (h : (times n (char f)).Reads b w a k) : (∀ c ∈ w, f c = true) ∧ w.length = n := by
  induction n generalizing b w k with
  | zero =>
    obtain ⟨rfl, -⟩ := reads_empty.mp h
    exact ⟨by simp, rfl⟩
  | succ n ih =>
    obtain ⟨u, v, _, _, rfl, -, hfirst, hrow⟩ := reads_inOrder_cons.mp h
    obtain ⟨hrest, hlength⟩ := ih hrow
    cases hfirst with
    | char hc => exact ⟨List.forall_mem_cons.mpr ⟨hc, hrest⟩, by simp [hlength]⟩

theorem of_reads_upToThree {k : List (Nat × List Char)} (h : (upToThree (char f)).Reads b w a k) :
    w ≠ [] ∧ (∀ c ∈ w, f c = true) ∧ w.length ≤ 3 := by
  have hone : times 1 (char f) = char f := rfl
  obtain ⟨p, hp, hread⟩ := reads_oneOf.mp h
  rw [← hone] at hp
  simp only [List.mem_cons, List.not_mem_nil, or_false] at hp
  have hsize {n : Nat} (hread : (times n (char f)).Reads b w a k) (hn : n ≠ 0) (hle : n ≤ 3) :
      w ≠ [] ∧ (∀ c ∈ w, f c = true) ∧ w.length ≤ 3 := by
    obtain ⟨hall, hlength⟩ := of_reads_times hread
    refine ⟨?_, hall, by omega⟩
    rintro rfl
    exact hn hlength.symm
  rcases hp with rfl | rfl | rfl <;> exact hsize hread (by omega) (by omega)

/-- As many characters as there are. -/
theorem prefers_times (hw : ∀ c ∈ w, f c = true) : (times w.length (char f)).Prefers b w a [] := by
  induction w generalizing b with
  | nil =>
    refine prefers_of_first fun s _ hs => ?_
    rw [past_nil (a := a) hs]
    exact first_of_spots [] rfl
  | cons c w ih =>
    have hc : (char f).Prefers b [c] (w ++ a) [] := prefers_char (hw c List.mem_cons_self)
    have hrest := ih (b := some c) fun d hd => hw d (List.mem_cons_of_mem c hd)
    cases w with
    | nil => exact hc
    | cons d w => exact hc.seq hrest

/-- More characters than there are cannot be read. -/
theorem not_reads_times {n : Nat} (hn : w.length < n) (ha : a.head?.any f = false)
    {v a' : List Char} {k : List (Nat × List Char)} (htext : w ++ a = v ++ a') :
    ¬ (times n (char f)).Reads b v a' k := by
  intro hread
  obtain ⟨hall, hlength⟩ := of_reads_times hread
  rcases List.append_eq_append_iff.mp htext with ⟨u, rfl, rfl⟩ | ⟨u, rfl, -⟩
  · cases u with
    | nil => simp at hlength; omega
    | cons c u =>
      rw [List.cons_append, List.head?_cons, Option.any_some, hall c (by simp)] at ha
      exact Bool.noConfusion ha
  · rw [List.length_append] at hn
    omega

/-- One to three characters are read together. -/
theorem prefers_upToThree (hne : w ≠ []) (hshort : w.length ≤ 3) (hw : ∀ c ∈ w, f c = true)
    (ha : a.head?.any f = false) : (upToThree (char f)).Prefers b w a [] := by
  have hpos := List.length_pos_iff.mpr hne
  have hall := prefers_times (b := b) (a := a) hw
  have hmore {n : Nat} (hn : w.length < n) (v a' : List Char) (k : List (Nat × List Char))
      (htext : w ++ a = v ++ a') : ¬ (times n (char f)).Reads b v a' k :=
    not_reads_times hn ha htext
  obtain hone | htwo | hthree : w.length = 1 ∨ w.length = 2 ∨ w.length = 3 := by omega
  · rw [hone] at hall
    exact .right (hmore (by omega)) (.right (hmore (by omega)) hall)
  · rw [htwo] at hall
    exact .right (hmore (by omega)) hall.left
  · rw [hthree] at hall
    exact hall.left

end Times

end CalcSpeech.Pattern
