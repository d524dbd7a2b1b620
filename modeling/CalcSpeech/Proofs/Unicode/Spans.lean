import CalcSpeech.Unicode.SwitchPoints
import Mathlib.Data.List.Chain

/-!
# Sets of characters as spans

Between an even and the next odd switch point lies a span of code points that belong to a set. A
character belongs to the set exactly when one of the spans holds it (`contains_iff`). Questions
about whole sets are answered by sweeps over two ascending lists, each of which looks at every span
once: whether two sets are apart, and which points of a row lie outside a set. A set of numbers that
is asked again and again is kept as the bits of one number (`testBit_bitsOf`).
-/

namespace CalcSpeech.Unicode

/-- A span of code points, from the first up to but not including the second. -/
abbrev Span := Nat × Nat

/-- Whether a span holds a code point. -/
def Span.Holds (span : Span) (n : Nat) : Prop := span.1 ≤ n ∧ n < span.2

/-- Whether one of some spans holds a code point. -/
def Inside (spans : List Span) (n : Nat) : Prop := ∃ span ∈ spans, span.Holds n

/-- Whether a code point is inside can be evaluated. -/
def insideTest (spans : List Span) (n : Nat) : Bool :=
  spans.any fun span => span.1 ≤ n && n < span.2

theorem insideTest_iff {spans : List Span} {n : Nat} :
    insideTest spans n = true ↔ Inside spans n := by
  simp [insideTest, Inside, Span.Holds]

namespace SwitchPoints

/-- The spans between switch points. -/
def spansOf : List Nat → List Span
  | low :: high :: rest => (low, high) :: spansOf rest
  | _ => []

/-- The spans of a set. -/
def spans (set : SwitchPoints) : List Span := spansOf set.points.toList

/-- Switch points in ascending order, each span with its end. -/
structure Sound (set : SwitchPoints) : Prop where
  ascending : set.points.toList.IsChain (· ≤ ·)
  even : set.points.toList.length % 2 = 0

instance (set : SwitchPoints) : Decidable set.Sound :=
  decidable_of_iff (set.points.toList.IsChain (· ≤ ·) ∧ set.points.toList.length % 2 = 0)
    ⟨fun h => ⟨h.1, h.2⟩, fun h => ⟨h.ascending, h.even⟩⟩

/-- Among ascending points an odd number lies at or below `n` exactly when a span holds it. -/
theorem countP_odd_iff (points : List Nat) (ascending : points.Pairwise (· ≤ ·))
    (even : points.length % 2 = 0) (n : Nat) :
    points.countP (· ≤ n) % 2 = 1 ↔ Inside (spansOf points) n := by
  induction points using spansOf.induct with
  | case1 low high rest ih =>
    obtain ⟨hlow, hrest⟩ := List.pairwise_cons.mp ascending
    obtain ⟨hhigh, hrest⟩ := List.pairwise_cons.mp hrest
    have heven : rest.length % 2 = 0 := by
      simp only [List.length_cons] at even
      omega
    have ih := ih hrest heven
    have hsplit : Inside (spansOf (low :: high :: rest)) n ↔
        (low ≤ n ∧ n < high) ∨ Inside (spansOf rest) n := by
      simp [Inside, spansOf, Span.Holds]
    rw [hsplit, List.countP_cons, List.countP_cons, ← ih]
    have hle : low ≤ high := hlow high (by simp)
    by_cases hn : high ≤ n
    · have : low ≤ n := Nat.le_trans hle hn
      simp only [hn, this, decide_true, if_true]
      omega
    · -- nothing behind a point above `n` lies at or below it
      have hzero : rest.countP (· ≤ n) = 0 := by
        rw [List.countP_eq_zero]
        intro m hm
        have := hhigh m hm
        simp only [decide_eq_true_eq]
        omega
      by_cases hl : low ≤ n
      · simp [hn, hl, hzero, Nat.lt_of_not_le hn]
      · simp [hn, hl, hzero]
  | case2 points hpoints =>
    cases points with
    | nil => simp [Inside, spansOf]
    | cons low rest =>
      cases rest with
      | nil => simp at even
      | cons high rest => exact absurd rfl (hpoints low high rest)

/-- A character belongs to a set exactly when one of the spans holds it. -/
theorem contains_iff {set : SwitchPoints} (sound : set.Sound) (c : Char) :
    set.contains c = true ↔ Inside set.spans c.toNat := by
  have hpairs := List.isChain_iff_pairwise.mp sound.ascending
  unfold contains
  rw [rank_eq_countP hpairs, beq_iff_eq]
  exact countP_odd_iff _ hpairs sound.even c.toNat

end SwitchPoints

/-! ## Sweeps -/

/-- Whether no code point is inside both of two lists of ascending spans; `fuel` bounds the number
of steps. -/
def apart : (fuel : Nat) → List Span → List Span → Bool
  | _, [], _ => true
  | _, _ :: _, [] => true
  | 0, _ :: _, _ :: _ => false
  | fuel + 1, s :: ss, t :: ts =>
    if s.2 ≤ t.1 then apart fuel ss (t :: ts)
    else if t.2 ≤ s.1 then apart fuel (s :: ss) ts
    else false

/-- Spans in ascending order of their starts. -/
def Ascending (spans : List Span) : Prop := spans.IsChain fun s t => s.1 ≤ t.1

instance (spans : List Span) : Decidable (Ascending spans) :=
  inferInstanceAs (Decidable (spans.IsChain _))

theorem Ascending.tail {s : Span} {ss : List Span} (h : Ascending (s :: ss)) : Ascending ss := by
  cases ss with
  | nil => exact .nil
  | cons t ts => exact (List.isChain_cons_cons.mp h).2

theorem Ascending.le {s : Span} {ss : List Span} (h : Ascending (s :: ss)) :
    ∀ t ∈ ss, s.1 ≤ t.1 := by
  have hpairs : (s :: ss).Pairwise fun s t => s.1 ≤ t.1 :=
    haveI : IsTrans Span fun s t => s.1 ≤ t.1 := ⟨fun _ _ _ => Nat.le_trans⟩
    List.isChain_iff_pairwise.mp h
  exact (List.pairwise_cons.mp hpairs).1

/-- What a sweep finds apart has no code point in common. -/
theorem not_inside_of_apart {fuel : Nat} {ss ts : List Span} (hs : Ascending ss)
    (ht : Ascending ts) (h : apart fuel ss ts = true) {n : Nat} (hn : Inside ss n) :
    ¬ Inside ts n := by
  induction fuel generalizing ss ts with
  | zero =>
    cases ss with
    | nil => simp [Inside] at hn
    | cons s ss =>
      cases ts with
      | nil => simp [Inside]
      | cons t ts => simp [apart] at h
  | succ fuel ih =>
    cases ss with
    | nil => simp [Inside] at hn
    | cons s ss =>
      cases ts with
      | nil => simp [Inside]
      | cons t ts =>
        rw [apart] at h
        -- the span that ends first lies in front of the other list, and is done with
        split at h
        · rename_i hst
          by_cases hsn : s.Holds n
          · rintro ⟨u, hu, hun⟩
            have : t.1 ≤ u.1 := by
              rcases List.mem_cons.mp hu with rfl | hu
              · exact Nat.le_refl _
              · exact ht.le u hu
            have := hsn.2
            have := hun.1
            omega
          · refine ih hs.tail ht h ?_
            obtain ⟨u, hu, hun⟩ := hn
            rcases List.mem_cons.mp hu with rfl | hu
            · exact absurd hun hsn
            · exact ⟨u, hu, hun⟩
        · split at h
          · rename_i hts
            rintro ⟨u, hu, hun⟩
            rcases List.mem_cons.mp hu with rfl | hu
            · obtain ⟨v, hv, hvn⟩ := hn
              have : s.1 ≤ v.1 := by
                rcases List.mem_cons.mp hv with rfl | hv
                · exact Nat.le_refl _
                · exact hs.le v hv
              have := hvn.1
              have := hun.2
              omega
            · exact ih hs ht.tail h hn ⟨u, hu, hun⟩
          · cases h

/-- Whether every span of a list lies in one span of another, both ascending; `fuel` bounds the
number of steps. -/
def within : (fuel : Nat) → List Span → List Span → Bool
  | _, [], _ => true
  | _, _ :: _, [] => false
  | 0, _ :: _, _ :: _ => false
  | fuel + 1, s :: ss, t :: ts =>
    if t.2 ≤ s.1 then within fuel (s :: ss) ts
    else t.1 ≤ s.1 && s.2 ≤ t.2 && within fuel ss (t :: ts)

/-- What a sweep finds within other spans is inside them. -/
theorem inside_of_within {fuel : Nat} {ss ts : List Span} (h : within fuel ss ts = true) {n : Nat}
    (hn : Inside ss n) : Inside ts n := by
  induction fuel generalizing ss ts with
  | zero =>
    cases ss with
    | nil => simp [Inside] at hn
    | cons s ss => cases ts <;> simp [within] at h
  | succ fuel ih =>
    cases ss with
    | nil => simp [Inside] at hn
    | cons s ss =>
      cases ts with
      | nil => simp [within] at h
      | cons t ts =>
        rw [within] at h
        split at h
        · obtain ⟨u, hu, hun⟩ := ih h hn
          exact ⟨u, by simp [hu], hun⟩
        · simp only [Bool.and_eq_true, decide_eq_true_eq] at h
          obtain ⟨⟨hlow, hhigh⟩, hrest⟩ := h
          obtain ⟨u, hu, hun⟩ := hn
          rcases List.mem_cons.mp hu with rfl | hu
          · exact ⟨t, by simp, Nat.le_trans hlow hun.1, Nat.lt_of_lt_of_le hun.2 hhigh⟩
          · exact ih hrest ⟨u, hu, hun⟩

/-- The points of an ascending row that no span of an ascending row holds; `fuel` bounds the number
of steps. -/
def outside : (fuel : Nat) → List Nat → List Span → List Nat
  | _, [], _ => []
  | _, n :: ns, [] => n :: ns
  | 0, n :: ns, _ :: _ => n :: ns
  | fuel + 1, n :: ns, t :: ts =>
    if n < t.1 then n :: outside fuel ns (t :: ts)
    else if n < t.2 then outside fuel ns (t :: ts)
    else outside fuel (n :: ns) ts

/-- A point that a sweep does not list is inside. -/
theorem mem_outside (fuel : Nat) {ns : List Nat} (ts : List Span) {n : Nat} (hn : n ∈ ns) :
    n ∈ outside fuel ns ts ∨ Inside ts n := by
  induction fuel generalizing ns ts with
  | zero =>
    cases ns with
    | nil => cases hn
    | cons m ns => cases ts <;> exact Or.inl hn
  | succ fuel ih =>
    cases ns with
    | nil => cases hn
    | cons m ns =>
      cases ts with
      | nil => exact Or.inl hn
      | cons t ts =>
        rw [outside]
        split
        · rcases List.mem_cons.mp hn with rfl | hn
          · exact Or.inl (by simp)
          · rcases ih (t :: ts) hn with h | h
            · exact Or.inl (by simp [h])
            · exact Or.inr h
        · split
          · rename_i hlow hhigh
            rcases List.mem_cons.mp hn with rfl | hn
            · exact Or.inr ⟨t, by simp, Nat.le_of_not_lt hlow, hhigh⟩
            · exact ih (t :: ts) hn
          · rcases ih ts hn with h | ⟨u, hu, hun⟩
            · exact Or.inl h
            · exact Or.inr ⟨u, by simp [hu], hun⟩

/-! ## Sets of numbers as bits -/

/-- A set of numbers as the bits of one. -/
def bitsOf (points : List Nat) : Nat := points.foldr (fun n bits => bits ||| 1 <<< n) 0

theorem testBit_bitsOf {points : List Nat} {n : Nat} :
    (bitsOf points).testBit n = true ↔ n ∈ points := by
  induction points with
  | nil => simp [bitsOf]
  | cons m rest ih =>
    show (bitsOf rest ||| 1 <<< m).testBit n = true ↔ _
    rw [Nat.testBit_or, Bool.or_eq_true, ih, List.mem_cons, Nat.one_shiftLeft,
      Nat.testBit_two_pow, decide_eq_true_eq, or_comm, eq_comm]

end CalcSpeech.Unicode
