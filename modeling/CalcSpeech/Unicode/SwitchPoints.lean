/-!
# Sets of characters as switch points

A character property is kept as the ascending list of code points at which it changes from absent
to present or back. A character has the property exactly when an odd number of switch points lie
at or below it, and that number is found by halving.
-/

namespace CalcSpeech.Unicode

/-- A set of code points, given by the ascending code points at which membership changes. -/
structure SwitchPoints where
  points : Array Nat

namespace SwitchPoints

/-- Halves the interval from `low` to `high` until the first point above `n` is left; `fuel`
bounds the number of halvings. -/
def search (points : Array Nat) (n : Nat) : Nat → Nat → Nat → Nat
  | 0, low, _ => low
  | fuel + 1, low, high =>
    if low < high then
      let middle := (low + high) / 2
      if points.getD middle 0 ≤ n then search points n fuel (middle + 1) high
      else search points n fuel low middle
    else low

/-- How many switch points are at most `n`. -/
def rank (set : SwitchPoints) (n : Nat) : Nat :=
  search set.points n (set.points.size.log2 + 1) 0 set.points.size

/-- Whether a character belongs to the set. -/
def contains (set : SwitchPoints) (c : Char) : Bool := set.rank c.toNat % 2 == 1

/-- Halving ends at the place that parts the points up to `n` from those above it. -/
theorem search_parts {points : Array Nat} {n : Nat}
    (ascending : ∀ i j, i < j → j < points.size → points.getD i 0 ≤ points.getD j 0)
    (fuel low high : Nat) (enough : high - low < Nat.pow 2 fuel) (inside : high ≤ points.size)
    (ordered : low ≤ high) (below : ∀ i, i < low → points.getD i 0 ≤ n)
    (above : ∀ i, high ≤ i → i < points.size → n < points.getD i 0) :
    search points n fuel low high ≤ points.size ∧
      (∀ i, i < search points n fuel low high → points.getD i 0 ≤ n) ∧
      ∀ i, search points n fuel low high ≤ i → i < points.size → n < points.getD i 0 := by
  induction fuel generalizing low high with
  | zero =>
    have : high - low < 1 := enough
    obtain rfl : low = high := by omega
    exact ⟨inside, below, above⟩
  | succ fuel ih =>
    have enough : high - low < Nat.pow 2 fuel * 2 := enough
    by_cases h : low < high
    · by_cases hm : points.getD ((low + high) / 2) 0 ≤ n
      · simp only [search, if_pos h, if_pos hm]
        refine ih _ _ (by omega) inside (by omega) (fun i hi => ?_) above
        by_cases hi' : i = (low + high) / 2
        · exact hi' ▸ hm
        · exact Nat.le_trans (ascending i _ (by omega) (by omega)) hm
      · simp only [search, if_pos h, if_neg hm]
        refine ih _ _ (by omega) (by omega) (by omega) below (fun i hi hs => ?_)
        by_cases hi' : i = (low + high) / 2
        · exact hi' ▸ Nat.lt_of_not_le hm
        · exact Nat.lt_of_lt_of_le (Nat.lt_of_not_le hm) (ascending _ i (by omega) hs)
    · simp only [search, if_neg h]
      obtain rfl : low = high := by omega
      exact ⟨inside, below, above⟩

/-- The rank of a code point is the number of switch points up to it. -/
theorem rank_eq_countP {set : SwitchPoints} (ascending : set.points.toList.Pairwise (· ≤ ·))
    (n : Nat) : set.rank n = set.points.toList.countP (· ≤ n) := by
  have entry (i : Nat) (h : i < set.points.size) :
      set.points.getD i 0 = set.points.toList.get ⟨i, by simpa using h⟩ := by
    simp [Array.getD, h]
  obtain ⟨inside, below, above⟩ := @search_parts set.points n
    (fun i j hij hj => by
      rw [entry i (by omega), entry j hj]
      exact List.pairwise_iff_getElem.mp ascending i j _ _ hij)
    (set.points.size.log2 + 1) 0 set.points.size Nat.lt_log2_self (Nat.le_refl _) (Nat.zero_le _)
    (fun i hi => absurd hi (Nat.not_lt_zero i)) (fun i hi hs => by omega)
  rw [← rank] at inside below above
  rw [← List.take_append_drop (set.rank n) set.points.toList, List.countP_append,
    List.countP_eq_length.mpr, List.countP_eq_zero.mpr]
  · simp [inside]
  · intro x hx
    obtain ⟨i, hi, rfl⟩ := List.getElem_of_mem hx
    have hs : set.rank n + i < set.points.size := by
      simp only [List.length_drop, Array.length_toList] at hi
      omega
    have := above (set.rank n + i) (by omega) hs
    rw [entry _ hs] at this
    simpa [List.getElem_drop] using this
  · intro x hx
    obtain ⟨i, hi, rfl⟩ := List.getElem_of_mem hx
    have hi' : i < set.rank n := by
      simp only [List.length_take] at hi
      omega
    have := below i hi'
    rw [entry _ (by omega)] at this
    simpa [List.getElem_take] using this

end SwitchPoints

end CalcSpeech.Unicode
