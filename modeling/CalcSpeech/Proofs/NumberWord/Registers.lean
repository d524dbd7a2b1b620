import CalcSpeech.Proofs.NumberWord.Groups
import Mathlib.Algebra.Order.Group.Nat

/-!
# Folding in registers

The registers of a fold hold no value beyond the largest one. Two steps of it have no bound of their
own: the sum of a value and what was read since the last magnitude, and the search for a place value,
which drops zeros at the end of a number until there are none and so never ends at zero. Read with
both checked (`Fold.readChecked?`), tokens of any values are folded as they are without, since what
was read since the last magnitude stays below ten thousand (`Fold.foldl_read_checked`).
-/

namespace CalcSpeech.NumberWord

/-! ## Place values -/

/-- The place value of `n` times `place`, if it is found in so many rounds and no register overflows
on the way. -/
def findPlace? : (rounds n place : Nat) → Option Nat
  | 0, _, _ => none
  | rounds + 1, n, place =>
    if n % 10 = 0 then
      if place * 10 ≤ valueLimit then findPlace? rounds (n / 10) (place * 10) else none
    else some place

/-- The search does not end at zero, however many rounds it is given. -/
theorem findPlace?_zero (rounds place : Nat) : findPlace? rounds 0 place = none := by
  induction rounds generalizing place with
  | zero => rfl
  | succ rounds ih =>
    rw [findPlace?, if_pos rfl]
    split_ifs
    · exact ih _
    · rfl

/-- The search ends at a number above zero, in as many rounds as it has digits. -/
theorem findPlace?_eq {rounds n place fuel : Nat} (hpos : 0 < n) (hrounds : n < 10 ^ rounds)
    (hplace : place * n ≤ valueLimit) (hfuel : n ≤ fuel) :
    findPlace? rounds n place = some (place * placeValueWithin fuel n) := by
  induction rounds generalizing n place fuel with
  | zero => omega
  | succ rounds ih =>
    obtain ⟨fuel, rfl⟩ : ∃ smaller, fuel = smaller + 1 := ⟨fuel - 1, by omega⟩
    rw [findPlace?, placeValueWithin]
    split_ifs with hzero hfits
    · have hfewer : n / 10 < 10 ^ rounds := by
        rw [Nat.pow_succ] at hrounds
        omega
      have hrest : place * 10 * (n / 10) ≤ valueLimit := by
        rwa [Nat.mul_assoc, Nat.mul_div_cancel' (Nat.dvd_of_mod_eq_zero hzero)]
      have hless : n / 10 ≤ fuel := by omega
      rw [ih (by omega) hfewer hrest hless, Nat.mul_assoc]
    · -- the number ends in a zero, so it is at least ten
      have hten : place * 10 ≤ place * n := Nat.mul_le_mul_left place (by omega)
      omega
    · rw [Nat.mul_one]

/-- A place value is a power of ten that divides the number. -/
theorem exists_pow_placeValueWithin (fuel n : Nat) :
    ∃ power, placeValueWithin fuel n = 10 ^ power ∧ 10 ^ power ∣ n := by
  induction fuel generalizing n with
  | zero => exact ⟨0, rfl, Nat.one_dvd n⟩
  | succ fuel ih =>
    rw [placeValueWithin]
    split_ifs with hzero
    · obtain ⟨power, hplace, m, hm⟩ := ih (n / 10)
      refine ⟨power + 1, by rw [hplace, Nat.pow_succ'], m, ?_⟩
      rw [Nat.pow_succ', Nat.mul_assoc, ← hm, Nat.mul_div_cancel' (Nat.dvd_of_mod_eq_zero hzero)]
    · exact ⟨0, rfl, Nat.one_dvd n⟩

/-- A number below ten thousand with more put behind it in the place of its zeros is still below. -/
theorem add_placeValue_le {n : Nat} (hpos : 0 < n) (hlt : n < 10000) : n + placeValue n ≤ 10000 := by
  obtain ⟨power, hplace, hdvd⟩ := exists_pow_placeValueWithin n n
  have hpower : power < 4 := by
    refine (Nat.pow_lt_pow_iff_right (by decide : 1 < 10)).mp ?_
    exact Nat.lt_of_le_of_lt (Nat.le_of_dvd hpos hdvd) hlt
  have hwhole : 10 ^ power ∣ 10000 - n :=
    Nat.dvd_sub (Nat.pow_dvd_pow 10 (Nat.le_of_lt hpower)) hdvd
  have hroom := Nat.le_of_dvd (by omega) hwhole
  rw [placeValue, hplace]
  omega

namespace Fold

/-! ## Reading with every register checked -/

/-- Whether a value fits behind what was read, where a place value is asked for only if something
was read. -/
def fitsChecked? (rounds current value : Nat) : Option Bool :=
  if current = 0 then some true else (findPlace? rounds current 1).map (value < ·)

/-- A sum that a register holds. -/
def addChecked? (m n : Nat) : Option Nat := if m + n ≤ valueLimit then some (m + n) else none

/-- Reads a value that is added to what came since the last magnitude, if the search for a place
value ends in so many rounds and a register holds the sum. -/
def readPartChecked? (rounds : Nat) (f : Fold) (token : Token) : Option Fold := do
  let fits ← fitsChecked? rounds f.current token.value
  let f := if fits then f else f.breakBefore token
  let current ← addChecked? f.current token.value
  return { f with current, pending := true }

/-- Reads one token, if the searches for place values end in so many rounds and the registers hold
every sum that is not capped. -/
def readChecked? (rounds : Nat) (f : Fold) (token : Token) : Option Fold :=
  if token.value = 0 then some (f.readZero token)
  else if 1000 ≤ token.value then some (f.readMagnitude token)
  else if token.value = 100 then some (f.readHundred token)
  else f.readPartChecked? rounds token

/-- What holds of the registers behind every token. -/
structure IsBounded (f : Fold) : Prop where
  total_le : f.total ≤ valueLimit
  current_le : f.current ≤ 9999
  pending_iff : f.pending = true ↔ f.total ≠ 0 ∨ f.current ≠ 0

section Step

variable {f : Fold} {t : Token}

theorem isBounded_none : IsBounded {} := ⟨Nat.zero_le _, Nat.zero_le _, by simp⟩

/-- With nothing under way the registers are empty. -/
theorem isBounded_breakBefore : (f.breakBefore t).IsBounded :=
  ⟨Nat.zero_le _, Nat.zero_le _, by simp [breakBefore, flush]⟩

theorem isBounded_readZero : (f.readZero t).IsBounded :=
  ⟨Nat.zero_le _, Nat.zero_le _, by simp [readZero, breakBefore, flush, emit]⟩

theorem isBounded_readMagnitude (ht : 1000 ≤ t.value) : (f.readMagnitude t).IsBounded := by
  have hpos : 0 < max f.current 1 * t.value := Nat.mul_pos (by omega) (by omega)
  have htotal : capped (max f.current 1 * t.value) ≠ 0 := Nat.ne_of_gt (capped_pos hpos)
  exact ⟨Nat.min_le_right _ _, Nat.zero_le _, iff_of_true rfl (Or.inl htotal)⟩

/-- A hundred multiplies less than a hundred, since it begins a new number otherwise. -/
theorem IsBounded.readHundred (h : f.IsBounded) : (f.readHundred t).IsBounded := by
  have hstep {g : Fold} (hg : g.IsBounded) (hlt : g.current < 100) :
      IsBounded { g with current := capped (max g.current 1 * 100), pending := true } := by
    have hcapped : capped (max g.current 1 * 100) = max g.current 1 * 100 :=
      capped_of_lt (by omega)
    refine ⟨hg.total_le, ?_, iff_of_true rfl (Or.inr ?_)⟩
    · show capped _ ≤ 9999
      omega
    · show capped _ ≠ 0
      omega
  unfold Fold.readHundred
  split_ifs with hmore
  · exact hstep isBounded_breakBefore (show 0 < 100 by decide)
  · exact hstep h (Nat.lt_of_not_le hmore)

/-- A value that fits stands in the place of zeros. -/
theorem IsBounded.add_le (h : f.IsBounded) (ht : t.value < 1000)
    (hfits : extends? f.current t.value = true) : f.current + t.value ≤ 9999 := by
  rw [extends?, Bool.or_eq_true, beq_iff_eq, decide_eq_true_eq] at hfits
  rcases hfits with hzero | hplace
  · omega
  · by_cases hzero : f.current = 0
    · omega
    · have hsum := add_placeValue_le (Nat.pos_of_ne_zero hzero) (Nat.lt_succ_of_le h.current_le)
      omega

theorem IsBounded.readPart (h : f.IsBounded) (hpos : 0 < t.value) (ht : t.value < 1000) :
    (f.readPart t).IsBounded := by
  have hstep {g : Fold} (hg : g.IsBounded) (hsum : g.current + t.value ≤ 9999) :
      IsBounded { g with current := g.current + t.value, pending := true } :=
    ⟨hg.total_le, hsum, iff_of_true rfl (Or.inr (Nat.ne_of_gt (Nat.add_pos_right _ hpos)))⟩
  unfold Fold.readPart
  split_ifs with hfits
  · exact hstep h (h.add_le ht hfits)
  · refine hstep isBounded_breakBefore ?_
    show 0 + t.value ≤ 9999
    omega

/-- Every token leaves the registers bounded. -/
theorem IsBounded.read (h : f.IsBounded) (t : Token) : (f.read t).IsBounded := by
  unfold Fold.read
  split_ifs with hzero hmagnitude
  · exact isBounded_readZero
  · exact isBounded_readMagnitude hmagnitude
  · exact h.readHundred
  · exact h.readPart (Nat.pos_of_ne_zero hzero) (Nat.lt_of_not_le hmagnitude)

theorem fitsChecked?_eq {current : Nat} (h : current ≤ 9999) (rounds value : Nat) :
    fitsChecked? (4 + rounds) current value = some (extends? current value) := by
  rw [fitsChecked?, extends?]
  split_ifs with hzero
  · rw [hzero]
    rfl
  · have hlimit : 9999 ≤ valueLimit := by decide
    have hrounds : current < 10 ^ (4 + rounds) := by
      have hmono := Nat.pow_le_pow_right (n := 10) (by decide) (Nat.le_add_right 4 rounds)
      omega
    rw [findPlace?_eq (Nat.pos_of_ne_zero hzero) hrounds (by omega) (Nat.le_refl current),
      Nat.one_mul, Option.map_some, beq_false_of_ne hzero, Bool.false_or, placeValue]

/-- With checked registers a token is read as it is without. -/
theorem IsBounded.readChecked?_eq (h : f.IsBounded) (rounds : Nat) (t : Token) :
    f.readChecked? (4 + rounds) t = some (f.read t) := by
  rw [readChecked?, Fold.read]
  split_ifs with hzero hmagnitude
  · rfl
  · rfl
  · rfl
  · have hafter := (h.readPart (Nat.pos_of_ne_zero hzero) (Nat.lt_of_not_le hmagnitude)).current_le
    have hlimit : 9999 ≤ valueLimit := by decide
    unfold Fold.readPart at hafter ⊢
    rw [readPartChecked?, fitsChecked?_eq h.current_le, Option.bind_eq_bind, Option.bind_some]
    generalize (if extends? f.current t.value then f else f.breakBefore t) = g at hafter ⊢
    -- the sum is what the register holds afterwards
    have hsum : addChecked? g.current t.value = some (g.current + t.value) :=
      if_pos (Nat.le_trans hafter hlimit)
    show (addChecked? g.current t.value).bind _ = _
    rw [hsum]
    rfl

end Step

/-! ## Reading a row of tokens -/

theorem IsBounded.foldl {f : Fold} (h : f.IsBounded) (tokens : List Token) :
    (tokens.foldl Fold.read f).IsBounded := by
  induction tokens generalizing f with
  | nil => exact h
  | cons t tokens ih => exact ih (h.read t)

theorem IsBounded.foldlM {f : Fold} (h : f.IsBounded) (rounds : Nat) (tokens : List Token) :
    tokens.foldlM (readChecked? (4 + rounds)) f = some (tokens.foldl Fold.read f) := by
  induction tokens generalizing f with
  | nil => rfl
  | cons t tokens ih =>
    rw [List.foldlM_cons, h.readChecked?_eq, Option.bind_eq_bind, Option.bind_some,
      List.foldl_cons]
    exact ih (h.read t)

/-- Behind every token the part since the last magnitude is below ten thousand, and a number is under
way exactly where one of the registers holds something. A place value is never asked of zero, which
has none in any number of rounds: it is found within four rounds, and no sum is beyond the largest
value, so that with all of this checked the tokens are read as they are without. -/
theorem foldl_read_checked (tokens : List Token) :
    (∀ n, ((tokens.take n).foldl Fold.read {}).IsBounded) ∧
      (∀ rounds place, findPlace? rounds 0 place = none) ∧
      ∀ rounds, tokens.foldlM (readChecked? (4 + rounds)) {} = some (tokens.foldl Fold.read {}) :=
  ⟨fun n => isBounded_none.foldl (tokens.take n), findPlace?_zero,
    fun rounds => isBounded_none.foldlM rounds tokens⟩

/-- The bound is reached: ninety-nine hundred ninety-nine. -/
example : (([⟨99, none⟩, ⟨100, none⟩, ⟨99, none⟩] : List Token).foldl Fold.read {}).current = 9999 := by
  decide

end Fold

end CalcSpeech.NumberWord
