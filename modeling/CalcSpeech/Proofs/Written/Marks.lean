import CalcSpeech.Proofs.Numeral

/-!
# Marks that are replaced

Each step in which the marks of a numeral are read puts something in place of marks between digits:
nothing for a mark between groups of three (`replaces_commaGroups`, `replaces_periodGroups`), a
period for a comma in front of the decimals (`replaces_decimalComma`).
-/

namespace CalcSpeech.NumeralMark

open Unicode Pattern

/-- The second text is the first, behind a character or none, with `out` in place of some of the
marks `m` that have a digit in front of them and `P` behind them. -/
inductive Replaces (m : Char) (P : List Char → Prop) (out : List Char) :
    Option Char → List Char → List Char → Prop
  | nil {b} : Replaces m P out b [] []
  | keep {b c rest v} : Replaces m P out (some c) rest v →
      Replaces m P out b (c :: rest) (c :: v)
  | change {b rest v} : b.any isDecimalDigit = true → P rest →
      Replaces m P out (some m) rest v → Replaces m P out b (m :: rest) (out ++ v)

section Replaces

variable {m : Char} {P : List Char → Prop} {out : List Char} {b : Option Char} {u v : List Char}

theorem Replaces.append {w : List Char} (h : Replaces m P out (behind b w) u v) :
    Replaces m P out b (w ++ u) (w ++ v) := by
  induction w generalizing b with
  | nil => exact h
  | cons c w ih => exact .keep (ih h)

/-- What is replaced in every match is replaced in a text. -/
theorem replaces_rewriteAfter {p : Pattern} {change : Match → List Char} {Q : Char → Prop}
    (h : ∀ b w a k, p.Reads b w a k → (∀ c ∈ w, Q c) → ∀ v, Replaces m P out (behind b w) a v →
      Replaces m P out b (w ++ a) (change ⟨w, k⟩ ++ v)) (b : Option Char) {text : List Char}
    (htext : ∀ c ∈ text, Q c) : Replaces m P out b text (p.rewriteAfter change b text) := by
  induction b, text using p.search_induction with
  | nil before => exact .nil
  | plain before c rest hc ih =>
    rw [rewriteAfter_plain change hc]
    exact .keep (ih fun d hd => htext d (List.mem_cons_of_mem c hd))
  | found before m a hm hne ih =>
    obtain ⟨-, a', ha, hread⟩ := reads_of_matchAt? hm
    obtain rfl := List.append_cancel_left ha
    rw [rewriteAfter_found change hm]
    exact h before m.text a m.groups hread (fun c hc => htext c (List.mem_append_left a hc)) _
      (ih fun c hc => htext c (List.mem_append_right _ hc))

theorem Replaces.mem (h : Replaces m P out b u v) : ∀ c ∈ v, c ∈ u ∨ c ∈ out := by
  induction h with
  | nil => simp
  | keep _ ih =>
    intro c hc
    rcases List.mem_cons.mp hc with rfl | hc
    · exact Or.inl List.mem_cons_self
    · exact (ih c hc).imp_left (List.mem_cons_of_mem _)
  | change _ _ _ ih =>
    intro c hc
    rcases List.mem_append.mp hc with hc | hc
    · exact Or.inr hc
    · exact (ih c hc).imp_left (List.mem_cons_of_mem _)

/-- Other characters stay as many as they are. -/
theorem Replaces.count (h : Replaces m P out b u v) {c : Char} (hc : c ≠ m) (hout : c ∉ out) :
    v.count c = u.count c := by
  induction h with
  | nil => rfl
  | keep _ ih => rw [List.count_cons, List.count_cons, ih]
  | change _ _ _ ih =>
    rw [List.count_append, List.count_eq_zero.mpr hout, ih, List.count_cons_of_ne hc.symm,
      Nat.zero_add]

/-- Other characters stay in place. -/
theorem Replaces.filter (h : Replaces m P out b u v) {f : Char → Bool} (hm : f m = false)
    (hout : ∀ c ∈ out, f c = false) : v.filter f = u.filter f := by
  induction h with
  | nil => rfl
  | keep _ ih => rw [List.filter_cons, List.filter_cons, ih]
  | change _ _ _ ih =>
    have hnone : out.filter f = [] := List.filter_eq_nil_iff.mpr fun c hc => by simp [hout c hc]
    rw [List.filter_append, hnone, List.nil_append, ih, List.filter_cons_of_neg (by simp [hm])]

/-- What holds of the last character of a text holds of it behind another text. -/
theorem any_getLast?_append {f : Char → Bool} {w : List Char}
    (h : w.getLast?.any f = true) (front : List Char) : (front ++ w).getLast?.any f = true := by
  have hne : w ≠ [] := by
    rintro rfl
    exact Bool.noConfusion h
  rwa [List.getLast?_append_of_ne_nil _ hne]

/-- A digit in front stays there. -/
theorem Replaces.head (h : Replaces m P out b u v) (hm : isDecimalDigit m = false)
    (hu : u.head?.any isDecimalDigit = true) : v.head?.any isDecimalDigit = true := by
  cases h with
  | nil => exact hu
  | keep _ => exact hu
  | change _ _ _ => exact absurd (hm.symm.trans hu) (by decide)

/-- A digit at the end stays there. -/
theorem Replaces.last (h : Replaces m P out b u v) (hm : isDecimalDigit m = false)
    (hu : u.getLast?.any isDecimalDigit = true) : v.getLast?.any isDecimalDigit = true := by
  have hlast {c : Char} {rest : List Char} (hrest : rest ≠ [])
      (hu : (c :: rest).getLast?.any isDecimalDigit = true) :
      rest.getLast?.any isDecimalDigit = true := by
    rwa [← List.singleton_append, List.getLast?_append_of_ne_nil _ hrest] at hu
  induction h with
  | nil => exact hu
  | @keep b c rest v hrest ih =>
    by_cases hne : rest = []
    · subst hne
      cases hrest
      exact hu
    · exact any_getLast?_append (ih (hlast hne hu)) [c]
  | @change b rest v _ _ hrest ih =>
    by_cases hne : rest = []
    · subst hne
      exact absurd (hm.symm.trans hu) (by decide)
    · exact any_getLast?_append (ih (hlast hne hu)) out

/-- Without marks that may be replaced nothing is. -/
theorem Replaces.eq_self (h : Replaces m P out b u v)
    (hno : ∀ x y, u = x ++ m :: y → ¬ ((behind b x).any isDecimalDigit = true ∧ P y)) : v = u := by
  induction h with
  | nil => rfl
  | @keep b c rest v _ ih =>
    rw [ih fun x y hrest => hno (c :: x) y (by rw [hrest, List.cons_append])]
  | change hdigit hP _ _ => exact absurd ⟨hdigit, hP⟩ (hno [] _ rfl)

/-- Where no mark is left each was replaced, and stood where it may be. -/
theorem Replaces.place (h : Replaces m P out b u v) (hm : m ∉ v) {x y : List Char}
    (hu : u = x ++ m :: y) : (behind b x).any isDecimalDigit = true ∧ P y := by
  induction h generalizing x with
  | nil => simp at hu
  | keep _ ih =>
    rw [List.mem_cons, not_or] at hm
    cases x with
    | nil => exact absurd (List.cons.inj hu).1.symm hm.1
    | cons d x =>
      obtain ⟨rfl, hrest⟩ := List.cons.inj hu
      exact ih hm.2 hrest
  | change hdigit hP _ ih =>
    cases x with
    | nil =>
      obtain ⟨-, rfl⟩ := List.cons.inj hu
      exact ⟨hdigit, hP⟩
    | cons d x =>
      obtain ⟨rfl, hrest⟩ := List.cons.inj hu
      exact ih (fun h => hm (List.mem_append_right _ h)) hrest

/-- Where no mark is left all were replaced. -/
theorem Replaces.eq_flatMap (h : Replaces m P out b u v) (hm : m ∉ v) :
    v = u.flatMap fun c => if c = m then out else [c] := by
  induction h with
  | nil => rfl
  | keep _ ih =>
    rw [List.mem_cons, not_or] at hm
    rw [List.flatMap_cons, if_neg (Ne.symm hm.1), ← ih hm.2]
    rfl
  | change _ _ _ ih =>
    rw [List.flatMap_cons, if_pos rfl, ← ih fun h => hm (List.mem_append_right _ h)]

/-- What stands behind a character that is left stood behind it before. -/
theorem Replaces.exists_of_cons (h : Replaces m P [] b u v) {x y : List Char} {c : Char}
    (hv : v = x ++ c :: y) : ∃ x' y', u = x' ++ c :: y' ∧ Replaces m P [] (some c) y' y := by
  induction h generalizing x with
  | nil => simp at hv
  | @keep b d rest v hrest ih =>
    cases x with
    | nil =>
      obtain ⟨rfl, rfl⟩ := List.cons.inj hv
      exact ⟨[], rest, rfl, hrest⟩
    | cons e x =>
      obtain ⟨rfl, hrow⟩ := List.cons.inj hv
      obtain ⟨x', y', rfl, hy⟩ := ih hrow
      exact ⟨d :: x', y', rfl, hy⟩
  | change _ _ _ ih =>
    obtain ⟨x', y', rfl, hy⟩ := ih hv
    exact ⟨m :: x', y', rfl, hy⟩

end Replaces

/-! ## Groups of three -/

/-- Three digits stand here. -/
def Thousand (rest : List Char) : Prop :=
  ∃ x y z t, rest = x :: y :: z :: t ∧ ∀ c ∈ [x, y, z], isDecimalDigit c = true

theorem Thousand.head {rest : List Char} (h : Thousand rest) :
    rest.head?.any isDecimalDigit = true := by
  obtain ⟨x, y, z, t, rfl, hdigits⟩ := h
  exact hdigits x (by simp)

/-- Groups of three digits, each with a mark in front. -/
inductive Groups (m : Char) : List Char → Prop
  | nil : Groups m []
  | cons {x y z w} : (∀ c ∈ [x, y, z], isDecimalDigit c = true) → Groups m w →
      Groups m (m :: x :: y :: z :: w)

theorem reads_digit {b : Option Char} {w a : List Char} {k : List (Nat × List Char)} :
    digit.Reads b w a k ↔ ∃ c, w = [c] ∧ isDecimalDigit c = true ∧ k = [] := by
  constructor
  · intro h
    cases h with
    | char hc => exact ⟨_, rfl, hc, rfl⟩
  · intro ⟨c, hw, hc, hk⟩
    rw [hw, hk]
    exact .char hc

section Groups

variable {m : Char} {b : Option Char} {w a : List Char} {k : List (Nat × List Char)}

theorem exists_of_group (h : (inOrder [just m, times 3 digit]).Reads b w a k) :
    ∃ x y z, w = [m, x, y, z] ∧ ∀ c ∈ [x, y, z], isDecimalDigit c = true := by
  obtain ⟨u, v, _, _, rfl, -, hmark, hrow⟩ := reads_inOrder_cons.mp h
  have hthree : (inOrder [digit, digit, digit]).Reads (behind b u) v a _ := hrow
  obtain ⟨x, v, _, _, rfl, -, hx, hrow⟩ := reads_inOrder_cons.mp hthree
  obtain ⟨y, z, _, _, rfl, -, hy, hz⟩ := reads_inOrder_cons.mp hrow
  obtain ⟨rfl, -⟩ := reads_just.mp hmark
  obtain ⟨x, rfl, hfirst, -⟩ := reads_digit.mp hx
  obtain ⟨y, rfl, hsecond, -⟩ := reads_digit.mp hy
  obtain ⟨z, rfl, hthird, -⟩ := reads_digit.mp hz
  exact ⟨x, y, z, rfl, by simp [hfirst, hsecond, hthird]⟩

theorem groups_of_reads (h : (atLeastOne (inOrder [just m, times 3 digit])).Reads b w a k) :
    Groups m w := by
  have hmany {b : Option Char} {w a : List Char} {k : List (Nat × List Char)}
      (h : (many (inOrder [just m, times 3 digit])).Reads b w a k) : Groups m w := by
    generalize hp : many (inOrder [just m, times 3 digit]) = p at h
    induction h with
    | done => exact .nil
    | more _ hgroup _ _ ih =>
      obtain rfl := Pattern.many.inj hp
      obtain ⟨x, y, z, rfl, hdigits⟩ := exists_of_group hgroup
      exact .cons hdigits (ih rfl)
    | _ => cases hp
  cases h with
  | seq hgroup hrow =>
    obtain ⟨x, y, z, rfl, hdigits⟩ := exists_of_group hgroup
    exact .cons hdigits (hmany hrow)

/-- Groups lose their marks. -/
theorem Groups.replaces (hw : Groups m w) (hm : isDecimalDigit m = false) {v : List Char}
    (hb : b.any isDecimalDigit = true) (h : Replaces m Thousand [] (behind b w) a v) :
    Replaces m Thousand [] b (w ++ a) (w.filter (· != m) ++ v) := by
  induction hw generalizing b with
  | nil => exact h
  | @cons x y z w hdigits _ ih =>
    have hkept : ∀ c ∈ [x, y, z], (c != m) = true := by
      intro c hc
      rw [bne_iff_ne]
      rintro rfl
      exact Bool.false_ne_true (hm.symm.trans (hdigits c hc))
    have hz : (some z).any isDecimalDigit = true := hdigits z (by simp)
    have hrest := ih hz h
    have hrow : (m :: x :: y :: z :: w).filter (· != m) = [x, y, z] ++ w.filter (· != m) := by
      rw [List.filter_cons_of_neg (by simp), show x :: y :: z :: w = [x, y, z] ++ w from rfl,
        List.filter_append, List.filter_eq_self.mpr hkept]
    rw [hrow, List.append_assoc]
    have hthree : Replaces m Thousand [] (some m) ([x, y, z] ++ (w ++ a))
        ([x, y, z] ++ (w.filter (· != m) ++ v)) := Replaces.append hrest
    exact .change hb ⟨x, y, z, _, rfl, hdigits⟩ hthree

end Groups

theorem isDigits_of_times {n : Nat} (hn : n ≠ 0) {b : Option Char} {w a : List Char}
    {k : List (Nat × List Char)} (h : (times n digit).Reads b w a k) :
    IsDigits w ∧ w.length = n := by
  obtain ⟨hdigits, hlength⟩ := of_reads_times h
  refine ⟨⟨?_, hdigits⟩, hlength⟩
  rintro rfl
  exact hn hlength.symm

theorem isDigits_of_upToThree {b : Option Char} {w a : List Char} {k : List (Nat × List Char)}
    (h : (upToThree digit).Reads b w a k) : IsDigits w := by
  obtain ⟨hne, hdigits, -⟩ := of_reads_upToThree h
  exact ⟨hne, hdigits⟩

section Steps

variable (b : Option Char) (text : List Char)

/-- Digits with groups behind them lose the marks of the groups. -/
theorem replaces_grouped {m : Char} (hm : isDecimalDigit m = false) {last : List Pattern}
    (hlast : ∀ b w a k, (inOrder last).Reads b w a k → m ∉ w) :
    Replaces m Thousand [] b text
      ((inOrder (boundary :: upToThree digit :: atLeastOne (inOrder [just m, times 3 digit]) ::
        last)).rewriteAfter (without m) b text) := by
  refine replaces_rewriteAfter (Q := fun _ => True) ?_ b fun _ _ => trivial
  intro b w a k hread _ v h
  obtain ⟨e, w1, _, _, rfl, -, hstart, hrow1⟩ := reads_inOrder_cons.mp hread
  obtain ⟨ds, w2, _, _, rfl, -, hdigits, hrow2⟩ := reads_inOrder_cons.mp hrow1
  obtain ⟨gs, r, _, _, rfl, -, hgroups, hrow3⟩ := reads_inOrder_cons.mp hrow2
  obtain rfl : e = [] := by
    cases hstart with
    | boundary => rfl
  have hds := isDigits_of_upToThree hdigits
  have hplain {u : List Char} (hu : m ∉ u) : u.filter (· != m) = u := by
    rw [List.filter_eq_self]
    intro c hc
    rw [bne_iff_ne]
    rintro rfl
    exact hu hc
  have hfront : m ∉ ds := by
    intro hmem
    exact Bool.false_ne_true (hm.symm.trans (hds.2 m hmem))
  have hbehind : (behind b ds).any isDecimalDigit = true := any_behind_of_ne_nil b hds.1 hds.2
  -- the digits in front stay, each mark behind them goes, and the rest is as before
  have hdone := (groups_of_reads hgroups).replaces hm hbehind
    (Replaces.append (w := r) (by simpa using h))
  have hwithout : without m ⟨[] ++ (ds ++ (gs ++ r)), k⟩ = ds ++ (gs.filter (· != m) ++ r) := by
    rw [without, List.nil_append, List.filter_append, List.filter_append, hplain hfront,
      hplain (hlast _ _ _ _ hrow3)]
  rw [hwithout]
  have hall := Replaces.append hdone
  simpa using hall

theorem replaces_commaGroups :
    Replaces ',' Thousand [] b text (commaGroups.rewriteAfter (without ',') b text) := by
  refine replaces_grouped b text isDecimalDigit_comma fun b w a k h => ?_
  cases h with
  | boundary => exact List.not_mem_nil

theorem replaces_periodGroups :
    Replaces '.' Thousand [] b text (periodGroups.rewriteAfter (without '.') b text) := by
  refine replaces_grouped b text (by decide) fun b w a k h => ?_
  obtain ⟨c, d, _, _, rfl, -, hcomma, hdigit⟩ := reads_inOrder_cons.mp h
  obtain ⟨rfl, -⟩ := reads_just.mp hcomma
  obtain ⟨d, rfl, hd, -⟩ := reads_digit.mp hdigit
  simp only [List.singleton_append, List.mem_cons, List.not_mem_nil, or_false, not_or]
  refine ⟨by decide, ?_⟩
  rintro rfl
  exact absurd hd (by decide)

/-- One or two digits stand here, and no word goes on behind them. -/
def Cents (rest : List Char) : Prop :=
  ∃ ds t, rest = ds ++ t ∧ IsDigits ds ∧ ds.length ≤ 2 ∧ t.head?.any isWordCharacter = false

omit b text in
theorem Cents.head {rest : List Char} (h : Cents rest) : rest.head?.any isDecimalDigit = true := by
  obtain ⟨ds, t, rfl, ⟨hne, hdigits⟩, -⟩ := h
  obtain ⟨d, ds, rfl⟩ := List.exists_cons_of_ne_nil hne
  exact hdigits d List.mem_cons_self

theorem replaces_decimalComma :
    Replaces ',' Cents ['.'] b text (decimalComma.rewriteAfter pointed b text) := by
  refine replaces_rewriteAfter (Q := fun _ => True) ?_ b fun _ _ => trivial
  intro b w a k hread _ v h
  obtain ⟨ds, w1, _, _, rfl, rfl, hfirst, hrow1⟩ := reads_inOrder_cons.mp hread
  obtain ⟨c, w2, _, _, rfl, rfl, hcomma, hrow2⟩ := reads_inOrder_cons.mp hrow1
  obtain ⟨es, e, _, ke, rfl, rfl, hsecond, hend⟩ := reads_inOrder_cons.mp hrow2
  obtain ⟨rfl, rfl⟩ := reads_just.mp hcomma
  obtain ⟨hwhole, rfl⟩ := (reads_group rfl).mp hfirst
  obtain ⟨hplaces, rfl⟩ := (reads_group rfl).mp hsecond
  obtain ⟨rfl, rfl, hedge⟩ :
      e = [] ∧ ke = [] ∧ isWordBoundary (behind (behind (behind b ds) [',']) es) a.head? = true := by
    cases hend with
    | boundary hedge => exact ⟨rfl, rfl, hedge⟩
  obtain ⟨hds, -⟩ := reads_digits.mp hwhole
  have hes : IsDigits es ∧ es.length ≤ 2 := by
    have hone : times 1 digit = digit := rfl
    obtain ⟨p, hp, hread⟩ := reads_oneOf.mp hplaces
    rw [← hone] at hp
    simp only [List.mem_cons, List.not_mem_nil, or_false] at hp
    rcases hp with rfl | rfl
    · obtain ⟨hdigits, hlength⟩ := isDigits_of_times (by omega) hread
      exact ⟨hdigits, by omega⟩
    · obtain ⟨hdigits, hlength⟩ := isDigits_of_times (by omega) hread
      exact ⟨hdigits, by omega⟩
  -- the boundary behind the places keeps a third digit away
  have hend : a.head?.any isWordCharacter = false := by
    have hlast := isWordCharacter_of_isDecimalDigit (hes.1.2 _ (List.getLast_mem hes.1.1))
    rw [isWordBoundary, behind_of_ne_nil _ hes.1.1, Option.any_some, hlast] at hedge
    simpa using hedge
  have hbehind : (behind b ds).any isDecimalDigit = true := any_behind_of_ne_nil b hds.1 hds.2
  have hdone : Replaces ',' Cents ['.'] (behind b ds) (',' :: (es ++ a)) (['.'] ++ (es ++ v)) :=
    .change hbehind ⟨es, a, rfl, hes.1, hes.2, hend⟩ (Replaces.append (by simpa using h))
  have hall := Replaces.append hdone
  have hpointed : pointed ⟨ds ++ ([','] ++ (es ++ [])), [] ++ [(2, es)] ++ [] ++ [(1, ds)]⟩ =
      ds ++ '.' :: es := rfl
  rw [hpointed]
  simpa using hall

end Steps

end CalcSpeech.NumeralMark
