import CalcSpeech.Proofs.Decimal
import CalcSpeech.Proofs.Formula
import CalcSpeech.Proofs.Written.Marks

/-!
# How written numerals are read

When the marks of a written numeral are those of the language and what is made of it is a plain
numeral, its groups were taken out and its decimal mark became a period (`exists_ungrouped`).
-/

namespace CalcSpeech

open Unicode Pattern NumeralMark

/-! ## Plain numerals -/

section Values

variable {n : List Char} {x : ℚ} (h : HasValue n x)

include h

theorem HasValue.no_comma : ',' ∉ n := by
  intro hc
  rcases h.mem hc with hdigit | hpoint
  · exact absurd hdigit (by decide)
  · exact absurd hpoint (by decide)

theorem HasValue.count_point : n.count '.' ≤ 1 := by
  have hnone {ds : List Char} (hds : ∀ c ∈ ds, c.isDigit = true) : ds.count '.' = 0 :=
    List.count_eq_zero.mpr fun hc => absurd (hds '.' hc) (by decide)
  cases h with
  | whole hds => exact (hnone hds.2).le.trans (Nat.zero_le 1)
  | decimal hds hes =>
    rw [List.count_append, List.count_cons_self, hnone hds, hnone hes.2]

end Values

/-! ## Written numerals -/

/-- Digits from `0` to `9`, periods and commas. -/
def AreNumeric (t : List Char) : Prop := ∀ c ∈ t, c.isDigit = true ∨ c = '.' ∨ c = ','

/-- Digits from `0` to `9`, periods and commas, with a digit at each end. -/
structure IsWritten (t : List Char) : Prop where
  numeric : AreNumeric t
  head : t.head?.any Char.isDigit = true
  last : t.getLast?.any Char.isDigit = true

theorem any_isDecimalDigit {c : Option Char} (hc : c.any Char.isDigit = true) :
    c.any isDecimalDigit = true := by
  cases c with
  | none => exact hc
  | some c => exact isDecimalDigit_of_isDigit hc

/-- The marks of a written numeral are those of a language. Where the period is the decimal mark no
comma stands in front of the last one or two digits; where the comma is there is no other, and no
period without it. -/
def IsMarkedBy : DecimalMark → List Char → Prop
  | .period, t => ∀ x ds, t = x ++ ',' :: ds → (∀ c ∈ ds, c.isDigit = true) → 2 < ds.length
  | .comma, t => t.count ',' ≤ 1 ∧ ('.' ∈ t → ',' ∈ t)

namespace NumeralMark

section Numeric

variable {t : List Char} (ht : AreNumeric t)

include ht

theorem eq_false_of_numeric {f : Char → Bool} (hdigit : ∀ c, c.isDigit = true → f c = false)
    (hmarks : f '.' = false ∧ f ',' = false) : ∀ c ∈ t, f c = false := by
  intro c hc
  rcases ht c hc with h | rfl | rfl
  · exact hdigit c h
  · exact hmarks.1
  · exact hmarks.2

theorem silent_of_numeric : Silent t := by
  refine eq_false_of_numeric ht (fun c hc => ?_) (by decide)
  exact isVerbal_of_isDecimalDigit (isDecimalDigit_of_isDigit hc)

theorem solid_of_numeric : ∀ c ∈ t, isBlank c = false :=
  eq_false_of_numeric ht
    (fun _ hc => isBlank_of_isDecimalDigit (isDecimalDigit_of_isDigit hc)) (by decide)

theorem plainSpaces_of_numeric : t.map plainSpace = t := by
  have hspaces : ∀ d ∈ ['\u00A0', '\u202F', '\u2007', '\u2009'],
      ¬ (d.isDigit = true ∨ d = '.' ∨ d = ',') := by decide
  apply plainSpaces_eq_self
  intro c hc
  rw [plainSpace, if_neg]
  intro hspace
  refine hspaces c ?_ (ht c hc)
  simpa using hspace

/-- Digits of any script are digits from `0` to `9` here. -/
theorem isDigit_of_numeric {c : Char} (hc : c ∈ t) (h : isDecimalDigit c = true) :
    c.isDigit = true := by
  rcases ht c hc with hdigit | rfl | rfl
  · exact hdigit
  · exact absurd h (by decide)
  · exact absurd h (by decide)

end Numeric

theorem spacedPoint_of_solid {t : List Char} (ht : ∀ c ∈ t, isBlank c = false) :
    spacedPoint.rewrite pointed t = t := by
  apply spacedPoint_eq_self
  rintro v c u hu ⟨r, hr, hblank⟩
  obtain ⟨rfl, rfl⟩ := List.cons.inj hr
  rcases hblank with hblank | hblank
  · have hsolid : (behind none v).any isBlank = false :=
      any_behind rfl fun c hc => ht c (by rw [hu]; exact List.mem_append_left _ hc)
    exact Bool.false_ne_true (hsolid.symm.trans hblank)
  · cases u with
    | nil => exact Bool.noConfusion hblank
    | cons d u =>
      have hsolid : isBlank d = false := ht d (by rw [hu]; simp)
      exact Bool.false_ne_true (hsolid.symm.trans hblank)

/-! ## With the period as decimal mark -/

section Replaced

variable {m : Char} {P : List Char → Prop} {out : List Char} {b : Option Char} {u v : List Char}

/-- In front of two characters or less no mark is taken out. -/
theorem Replaces.eq_of_short (h : Replaces m Thousand [] b u v) (hm : isDecimalDigit m = false)
    (hlength : v.length ≤ 2) : v = u := by
  have hsame := h.filter (f := isDecimalDigit) hm (by simp)
  refine h.eq_self ?_
  rintro x y hu ⟨-, c, d, e, t, rfl, hdigits⟩
  have hthree : 3 ≤ (u.filter isDecimalDigit).length := by
    rw [hu, List.filter_append, List.filter_cons_of_neg (by simp [hm]),
      show c :: d :: e :: t = [c, d, e] ++ t from rfl, List.filter_append,
      List.filter_eq_self.mpr hdigits]
    simp only [List.length_append, List.length_cons, List.length_nil]
    omega
  rw [← hsame] at hthree
  have := List.length_filter_le isDecimalDigit v
  omega

end Replaced

/-- The text that the groups were taken out of, and what stands in it for the decimal mark: a
period. -/
def pointedBy (mark : DecimalMark) (v : List Char) : List Char :=
  v.map fun c => if c = mark.point then '.' else c

theorem pointedBy_eq_self {mark : DecimalMark} {v : List Char} (hv : mark.point ∉ v) :
    pointedBy mark v = v := by
  rw [pointedBy, List.map_congr_left (g := id), List.map_id]
  intro c hc
  rw [if_neg]
  · rfl
  · rintro rfl
    exact hv hc

section Period

variable {t n : List Char} {x : ℚ} (ht : AreNumeric t) (hmark : IsMarkedBy .period t)
  (hn : HasValue n x)

include ht hmark hn

/-- Where commas set groups apart none of them is left to be a decimal mark. -/
theorem ungrouped_of_period {v : List Char} (hv : Replaces ',' Thousand [] none t v)
    (hlast : Replaces ',' Cents ['.'] none v n) : ',' ∉ v ∧ n = v := by
  have hnone : ',' ∉ v := by
    intro hcomma
    obtain ⟨y, z, rfl⟩ := List.append_of_mem hcomma
    -- the comma becomes the only period, so digits follow it
    have hdigits : ∀ c ∈ z, c.isDigit = true := by
      have heq := hlast.eq_flatMap hn.no_comma
      have hcount := hn.count_point
      rw [heq, List.flatMap_append, List.flatMap_cons, if_pos rfl, List.count_append,
        List.count_append] at hcount
      intro c hc
      have hmem := hv.mem c (by simp [hc])
      rcases ht c (by simpa using hmem) with hdigit | hother
      · exact hdigit
      · have hpoint : '.' ∈ z.flatMap fun c => if c = ',' then ['.'] else [c] := by
          refine List.mem_flatMap.mpr ⟨c, hc, ?_⟩
          rcases hother with rfl | rfl <;> decide
        have hpos := List.count_pos_iff.mpr hpoint
        rw [show List.count '.' ['.'] = 1 by decide] at hcount
        omega
    obtain ⟨-, ds, r, rfl, -, hshort, hend⟩ := hlast.place hn.no_comma rfl
    have hr : r = [] := by
      cases r with
      | nil => rfl
      | cons c r =>
        have hword := isWordCharacter_of_isDecimalDigit
          (isDecimalDigit_of_isDigit (hdigits c (by simp)))
        exact absurd (hword.symm.trans hend) (by decide)
    rw [hr, List.append_nil] at hdigits hv
    obtain ⟨y', z', rfl, hz⟩ := hv.exists_of_cons rfl
    rw [← hz.eq_of_short isDecimalDigit_comma hshort] at hmark
    exact absurd (hmark y' ds rfl hdigits) (by omega)
  refine ⟨hnone, hlast.eq_self ?_⟩
  rintro y z rfl -
  exact hnone (by simp)

end Period

/-! ## With the comma as decimal mark -/

/-- A comma with a digit at each side stands between two texts. -/
def Between (y z : List Char) : Prop :=
  (behind none y).any isDecimalDigit = true ∧ z.head?.any isDecimalDigit = true

section Point

variable {pack : LanguagePack} (hpack : pack.IsOrdinary) (hcomma : pack.decimalMark = .comma)

include hpack hcomma

/-- Where the comma is the decimal mark it is a decimal point between digits, beside the words. -/
theorem exists_spokenPoint : ∃ points,
    spokenPoint? pack = some (inOrder [group 1 digit, oneOf points, group 2 digit]) ∧
      just ',' ∈ points ∧ ∀ p ∈ points, p = just ',' ∨ p.Needs isVerbal := by
  refine ⟨((Vocabulary.pattern? (pack.words .decimalWords)).map fun word =>
    inOrder [loose, word, loose]).toList ++ [just ','], ?_, by simp, ?_⟩
  · unfold spokenPoint?
    rw [hcomma]
    cases Vocabulary.pattern? (pack.words .decimalWords) <;> rfl
  · intro p hp
    rcases List.mem_append.mp hp with hspoken | hwritten
    · obtain ⟨word, hword, rfl⟩ := Option.map_eq_some_iff.mp (Option.mem_toList.mp hspoken)
      exact Or.inr (needsAt_inOrder (by simp) (needs_words hpack .decimalWords word hword))
    · exact Or.inl (List.mem_singleton.mp hwritten)

variable {p : Pattern} (hp : spokenPoint? pack = some p) {b : Option Char} {w a : List Char}
  {k : List (Nat × List Char)}

include hp

/-- Without words a decimal point is a comma between two digits. -/
theorem reads_spokenPoint (hw : Silent w) : p.Reads b w a k ↔
    ∃ d e, w = [d, ',', e] ∧ isDecimalDigit d = true ∧ isDecimalDigit e = true ∧
      k = [(2, [e]), (1, [d])] := by
  obtain ⟨points, hpoints, hwritten, hall⟩ := exists_spokenPoint hpack hcomma
  obtain rfl := Option.some.inj (hpoints.symm.trans hp)
  constructor
  · intro hread
    obtain ⟨u1, w1, _, _, rfl, rfl, hfirst, hrow⟩ := reads_inOrder_cons.mp hread
    obtain ⟨u2, u3, _, _, rfl, rfl, hpoint, hlast⟩ := reads_inOrder_cons.mp hrow
    obtain ⟨hleft, rfl⟩ := (reads_group rfl).mp hfirst
    obtain ⟨hright, rfl⟩ := (reads_group rfl).mp hlast
    obtain ⟨d, rfl, hd, -⟩ := reads_digit.mp hleft
    obtain ⟨e, rfl, he, -⟩ := reads_digit.mp hright
    obtain ⟨q, hq, hq'⟩ := reads_oneOf.mp hpoint
    rcases hall q hq with rfl | hneeds
    · obtain ⟨rfl, rfl⟩ := reads_just.mp hq'
      exact ⟨d, e, rfl, hd, he, rfl⟩
    · obtain ⟨x, y, rfl, hy, hhead⟩ := hneeds _ _ _ _ hq'
      obtain ⟨c, y, rfl⟩ := List.exists_cons_of_ne_nil hy
      have hsilent : isVerbal c = false := hw c (by simp)
      exact absurd (hsilent.symm.trans hhead) (by decide)
  · rintro ⟨d, e, rfl, hd, he, rfl⟩
    have hread {i : Nat} {c : Char} (hc : isDecimalDigit c = true) {b : Option Char}
        {a : List Char} : (group i digit).Reads b [c] a [(i, [c])] :=
      (reads_group rfl).mpr ⟨reads_digit.mpr ⟨c, rfl, hc, rfl⟩, rfl⟩
    have hpoint {b : Option Char} {a : List Char} : (oneOf points).Reads b [','] a [] :=
      reads_oneOf.mpr ⟨just ',', hwritten, reads_just.mpr ⟨rfl, rfl⟩⟩
    exact .seq (u := [d]) (hread hd) (.seq (u := [',']) hpoint (hread he))

/-- Between digits a comma may become a period. -/
theorem replaces_spokenPoint {v : List Char} (hv : Silent v) :
    Replaces ',' (fun rest => rest.head?.any isDecimalDigit = true) ['.'] none v
      (p.rewrite pointed v) := by
  refine replaces_rewriteAfter (Q := (isVerbal · = false)) ?_ none hv
  intro b w a k hread hw v h
  obtain ⟨d, e, rfl, hd, he, rfl⟩ := (reads_spokenPoint hpack hcomma hp hw).mp hread
  exact .keep (.change hd he (.keep h))

/-- Without a comma between digits a text without words has no decimal point. -/
theorem spokenPoint_eq_self {v : List Char} (hv : Silent v)
    (hno : ∀ y z, v = y ++ ',' :: z → ¬ Between y z) : p.rewrite pointed v = v := by
  apply rewriteAfter_eq_self
  intro x w a k htext _ hread
  have hw : Silent w := fun c hc => hv c (by rw [htext]; simp [hc])
  obtain ⟨d, e, rfl, hd, he, -⟩ := (reads_spokenPoint hpack hcomma hp hw).mp hread
  refine absurd ⟨?_, ?_⟩ (hno (x ++ [d]) (e :: a) (by rw [htext]; simp))
  · rw [behind_append]
    exact hd
  · exact he

/-- A comma between two digits is the match that begins at the first of them. -/
theorem matchAt?_spokenPoint {d e : Char} (hd : isDecimalDigit d = true)
    (he : isDecimalDigit e = true) {z : List Char} (hv : Silent ([d, ',', e] ++ z)) :
    p.matchAt? b ([d, ',', e] ++ z) = some ⟨[d, ',', e], [(2, [e]), (1, [d])]⟩ := by
  have hsilent {w : List Char} (hw : w <+: [d, ',', e] ++ z) : Silent w :=
    fun c hc => hv c (hw.subset hc)
  have hread : p.Reads b [d, ',', e] z [(2, [e]), (1, [d])] :=
    (reads_spokenPoint hpack hcomma hp (hsilent (List.prefix_append _ _))).mpr
      ⟨d, e, rfl, hd, he, rfl⟩
  cases hm : p.matchAt? b ([d, ',', e] ++ z) with
  | none => exact absurd (matchAt?_eq_none_iff.mp hm _ _ _ rfl hread) (by simp)
  | some m =>
    obtain ⟨-, a, ha, hread⟩ := reads_of_matchAt? hm
    obtain ⟨d', e', hw, -, -, hk⟩ := (reads_spokenPoint hpack hcomma hp
      (hsilent (by rw [ha]; exact List.prefix_append _ _))).mp hread
    obtain ⟨w, k⟩ := m
    obtain rfl : w = [d', ',', e'] := hw
    obtain rfl : k = [(2, [e']), (1, [d'])] := hk
    simp only [List.cons_append, List.nil_append, List.cons.injEq, true_and] at ha
    rw [ha.1, ha.2.1]

/-- The only comma becomes a period, if it stands between digits. -/
theorem spokenPoint_eq_pointed {y z : List Char} (hv : Silent (y ++ ',' :: z)) (hy : ',' ∉ y)
    (hz : ',' ∉ z) (hbetween : Between y z) :
    p.rewrite pointed (y ++ ',' :: z) = y ++ '.' :: z := by
  obtain ⟨hdigit, hdigit'⟩ := hbetween
  obtain ⟨y, d, rfl⟩ : ∃ y' d, y = y' ++ [d] := by
    rcases List.eq_nil_or_concat y with rfl | ⟨y', d, rfl⟩
    · exact Bool.noConfusion hdigit
    · exact ⟨y', d, by simp⟩
  obtain ⟨e, z, rfl⟩ : ∃ e z', z = e :: z' := by
    cases z with
    | nil => exact Bool.noConfusion hdigit'
    | cons e z => exact ⟨e, z, rfl⟩
  rw [behind_append] at hdigit
  have hd : isDecimalDigit d = true := hdigit
  have he : isDecimalDigit e = true := hdigit'
  have htext : y ++ [d] ++ ',' :: e :: z = y ++ ([d, ',', e] ++ z) := by simp
  rw [htext] at hv ⊢
  have hquiet : p.Quiet none y ([d, ',', e] ++ z) := by
    apply quiet_of_reads
    rintro v x w a' k rfl hx hw hread
    have hsilent : Silent w := fun c hc => hv c (by
      rw [List.append_assoc, hw]
      simp [hc])
    obtain ⟨d', e', rfl, -, -, -⟩ := (reads_spokenPoint hpack hcomma hp hsilent).mp hread
    -- the comma is not in `x`, and what follows `x` is a digit
    obtain ⟨c, x, rfl⟩ := List.exists_cons_of_ne_nil hx
    cases x with
    | nil =>
      obtain ⟨rfl, -⟩ := List.cons.inj (List.cons.inj hw).2
      exact absurd hd (by decide)
    | cons c' x =>
      obtain ⟨rfl, -⟩ := List.cons.inj (List.cons.inj hw).2
      exact absurd (by simp) hy
  have hfound := matchAt?_spokenPoint hpack hcomma hp (b := behind none y) hd he fun c hc =>
    hv c (List.mem_append_right y hc)
  have hrest : p.rewriteAfter pointed (behind (behind none y) [d, ',', e]) z = z := by
    apply rewriteAfter_eq_self
    intro x w a k hz' _ hread
    have hsilent : Silent w := fun c hc => hv c (by rw [hz']; simp [hc])
    obtain ⟨d', e', rfl, -, -, -⟩ := (reads_spokenPoint hpack hcomma hp hsilent).mp hread
    exact absurd (by rw [hz']; simp) hz
  have hpointed := rewriteAfter_found (m := ⟨[d, ',', e], [(2, [e]), (1, [d])]⟩) pointed hfound
  rw [hrest] at hpointed
  rw [rewrite_eq_rewriteAfter, rewriteAfter_quiet pointed hquiet, hpointed]
  show y ++ ([d, '.', e] ++ z) = _
  simp

/-- Without a comma between digits the marks of a numeral stay as they are. -/
theorem rewrite_eq_self {v : List Char} (hv : AreNumeric v)
    (hno : ∀ y z, v = y ++ ',' :: z → ¬ Between y z) :
    decimalComma.rewrite pointed (commaGroups.rewrite (without ',')
      (spacedPoint.rewrite pointed (p.rewrite pointed v))) = v := by
  have hgroups := (replaces_commaGroups none v).eq_self fun y z hyz hplace =>
    hno y z hyz ⟨hplace.1, hplace.2.head⟩
  have hdecimal := (replaces_decimalComma none v).eq_self fun y z hyz hplace =>
    hno y z hyz ⟨hplace.1, hplace.2.head⟩
  rw [spokenPoint_eq_self hpack hcomma hp (silent_of_numeric hv) hno,
    spacedPoint_of_solid (solid_of_numeric hv), rewrite_eq_rewriteAfter commaGroups, hgroups,
    rewrite_eq_rewriteAfter, hdecimal]

/-- If a numeral is left of a text with one comma, it has no period and the comma became one. -/
theorem pointed_of_comma {y z n : List Char} {x : ℚ} (hv : AreNumeric (y ++ ',' :: z))
    (hy : ',' ∉ y) (hz : ',' ∉ z) (hn : HasValue n x)
    (hread : decimalComma.rewrite pointed (commaGroups.rewrite (without ',')
      (spacedPoint.rewrite pointed (p.rewrite pointed (y ++ ',' :: z)))) = n) :
    '.' ∉ y ++ ',' :: z ∧ n = pointedBy .comma (y ++ ',' :: z) := by
  by_cases hbetween : Between y z
  · have hmarked : AreNumeric (y ++ '.' :: z) := by
      intro c hc
      rcases List.mem_append.mp hc with hc | hc
      · exact hv c (List.mem_append_left _ hc)
      · rcases List.mem_cons.mp hc with rfl | hc
        · exact Or.inr (Or.inl rfl)
        · exact hv c (by simp [hc])
    have hno : ∀ y' z', y ++ '.' :: z = y' ++ ',' :: z' → ¬ Between y' z' := by
      intro y' z' heq
      have hnone : ',' ∉ y ++ '.' :: z := by simp [hy, hz]
      exact absurd (by rw [heq]; simp) hnone
    -- with its comma turned into a period the text has no comma left for the other rewritings
    have hself := rewrite_eq_self hpack hcomma hp hmarked hno
    rw [spokenPoint_eq_self hpack hcomma hp (silent_of_numeric hmarked) hno] at hself
    rw [spokenPoint_eq_pointed hpack hcomma hp (silent_of_numeric hv) hy hz hbetween, hself]
      at hread
    subst hread
    -- a numeral has one period at most, and that is the comma that was
    have hpoints := hn.count_point
    rw [List.count_append, List.count_cons_self] at hpoints
    have hnone {u : List Char} (hu : u.count '.' = 0) : '.' ∉ u := List.count_eq_zero.mp hu
    have hy' := hnone (u := y) (by omega)
    have hz' := hnone (u := z) (by omega)
    refine ⟨by simp [hy', hz'], ?_⟩
    have hmap : pointedBy .comma (y ++ ',' :: z) =
        pointedBy .comma y ++ '.' :: pointedBy .comma z := by simp [pointedBy, DecimalMark.point]
    rw [hmap, pointedBy_eq_self hy, pointedBy_eq_self hz]
  · have hno : ∀ y' z', y ++ ',' :: z = y' ++ ',' :: z' → ¬ Between y' z' := by
      intro y' z' heq
      obtain ⟨rfl, -, rfl⟩ := (List.append_cons_inj_of_notMem hy hz).mp heq
      exact hbetween
    rw [rewrite_eq_self hpack hcomma hp hv hno] at hread
    subst hread
    exact absurd (by simp) hn.no_comma

/-- Where there is one comma at most, and no period without it, groups are taken out and the comma
becomes a period. -/
theorem exists_of_comma {t n : List Char} {x : ℚ} (ht : AreNumeric t)
    (hmark : IsMarkedBy .comma t) (hn : HasValue n x)
    (hread : NumeralMark.rewrite .comma (some p) t = n) :
    ∃ v, Replaces '.' Thousand [] none t v ∧ '.' ∉ v ∧ n = pointedBy .comma v := by
  obtain ⟨hone, hperiod⟩ := hmark
  have hv := replaces_periodGroups none t
  rw [← rewrite_eq_rewriteAfter] at hv
  unfold NumeralMark.rewrite rewriteSpoken at hread
  rw [plainSpaces_of_numeric ht] at hread
  simp only at hread
  generalize periodGroups.rewrite (without '.') t = v at hv hread
  have hnumeric : AreNumeric v := fun c hc => ht c (by simpa using hv.mem c hc)
  have hcount : v.count ',' = t.count ',' := hv.count (by decide) (by simp)
  refine ⟨v, hv, ?_⟩
  by_cases hmem : ',' ∈ v
  · obtain ⟨y, z, rfl⟩ := List.append_of_mem hmem
    rw [List.count_append, List.count_cons_self] at hcount
    have hnone {u : List Char} (hu : u.count ',' = 0) : ',' ∉ u := List.count_eq_zero.mp hu
    exact pointed_of_comma hpack hcomma hp hnumeric (hnone (by omega)) (hnone (by omega)) hn hread
  · have hnone : ',' ∉ t := List.count_eq_zero.mp (hcount.symm.trans (List.count_eq_zero.mpr hmem))
    rw [rewrite_eq_self hpack hcomma hp hnumeric fun y z heq => absurd (by rw [heq]; simp) hmem]
      at hread
    refine ⟨fun h => hnone (hperiod (by simpa using hv.mem '.' h)), ?_⟩
    rw [← hread, pointedBy_eq_self hmem]

end Point

/-! ## Both marks -/

section Marks

variable {pack : LanguagePack} (hpack : pack.IsOrdinary)

theorem isDecimalDigit_marks : isDecimalDigit '.' = false ∧ isDecimalDigit ',' = false := by
  decide

/-- What is left of a written numeral is a written numeral. -/
theorem Replaces.isWritten {m : Char} {P : List Char → Prop} {out u v : List Char}
    (h : Replaces m P out none u v) (hm : isDecimalDigit m = false) (hout : AreNumeric out)
    (hu : IsWritten u) : IsWritten v := by
  have hnumeric : AreNumeric v := fun c hc => (h.mem c hc).elim (hu.numeric c) (hout c)
  have hback {c : Option Char} (hmem : ∀ d, c = some d → d ∈ v)
      (hc : c.any isDecimalDigit = true) : c.any Char.isDigit = true := by
    cases c with
    | none => exact hc
    | some c => exact isDigit_of_numeric hnumeric (hmem c rfl) hc
  exact ⟨hnumeric, hback (fun d hd => List.mem_of_head? hd) (h.head hm (any_isDecimalDigit hu.head)),
    hback (fun d hd => List.mem_of_getLast? hd) (h.last hm (any_isDecimalDigit hu.last))⟩

theorem isWritten_groups {t : List Char} (ht : IsWritten t) :
    IsWritten (decimalComma.rewrite pointed (commaGroups.rewrite (without ',')
      (spacedPoint.rewrite pointed t))) := by
  have hpoint : AreNumeric ['.'] := by
    intro c hc
    exact Or.inr (Or.inl (List.mem_singleton.mp hc))
  rw [spacedPoint_of_solid (solid_of_numeric ht.numeric)]
  have hgroups := (replaces_commaGroups none t).isWritten isDecimalDigit_comma (by simp [AreNumeric])
    ht
  exact (replaces_decimalComma none _).isWritten isDecimalDigit_comma hpoint hgroups

include hpack

/-- Without words there is no decimal point to read where the period is the decimal mark. -/
theorem rewriteSpoken_of_period (hperiod : pack.decimalMark = .period) {t : List Char}
    (ht : Silent t) : rewriteSpoken .period (spokenPoint? pack) t = t := by
  cases hp : spokenPoint? pack with
  | none => rfl
  | some p =>
    have hneeds : p.Needs isVerbal :=
      needsAt_spokenPoint (needs_pattern fun q hq => hpack.words hq)
        (fun hcomma => by rw [hperiod] at hcomma; cases hcomma) p hp
    exact rewriteAfter_of_needs hneeds pointed none ht

/-- A written numeral stays one. -/
theorem isWritten_rewrite {t : List Char} (ht : IsWritten t) :
    IsWritten (NumeralMark.rewrite pack.decimalMark (spokenPoint? pack) t) := by
  have hsilent := silent_of_numeric ht.numeric
  unfold NumeralMark.rewrite
  rw [plainSpaces_of_numeric ht.numeric]
  apply isWritten_groups
  cases hmark : pack.decimalMark with
  | period => rwa [rewriteSpoken_of_period hpack hmark hsilent]
  | comma =>
    have hpoint : AreNumeric ['.'] := by
      intro c hc
      exact Or.inr (Or.inl (List.mem_singleton.mp hc))
    obtain ⟨points, hp, -⟩ := exists_spokenPoint hpack hmark
    have hgroups := (replaces_periodGroups none t).isWritten isDecimalDigit_marks.1
      (by simp [AreNumeric]) ht
    rw [hp]
    exact (replaces_spokenPoint hpack hmark hp (silent_of_numeric hgroups.numeric)).isWritten
      isDecimalDigit_comma hpoint hgroups

/-- When the marks of a written numeral are those of the language and a plain numeral is left of it,
its groups were taken out and its decimal mark became a period. -/
theorem exists_ungrouped {t n : List Char} {x : ℚ} (ht : AreNumeric t)
    (hmark : IsMarkedBy pack.decimalMark t) (hn : HasValue n x)
    (hread : NumeralMark.rewrite pack.decimalMark (spokenPoint? pack) t = n) :
    ∃ v, Replaces pack.decimalMark.grouping Thousand [] none t v ∧
      pack.decimalMark.grouping ∉ v ∧ n = pointedBy pack.decimalMark v := by
  cases hperiod : pack.decimalMark with
  | period =>
    rw [hperiod] at hmark hread
    unfold NumeralMark.rewrite at hread
    rw [plainSpaces_of_numeric ht,
      rewriteSpoken_of_period hpack hperiod (silent_of_numeric ht)] at hread
    simp only [spacedPoint_of_solid (solid_of_numeric ht)] at hread
    have hv := replaces_commaGroups none t
    have hlast := replaces_decimalComma none (commaGroups.rewriteAfter (without ',') none t)
    obtain ⟨hnone, heq⟩ := ungrouped_of_period ht hmark hn hv (hread ▸ hlast)
    have hsame (v : List Char) : pointedBy .period v = v := by
      rw [pointedBy, List.map_congr_left (g := id), List.map_id]
      intro c _
      by_cases hc : c = '.'
      · rw [hc]
        rfl
      · exact if_neg hc
    exact ⟨_, hv, hnone, by rw [hsame, heq]⟩
  | comma =>
    rw [hperiod] at hmark hread
    obtain ⟨points, hp, -⟩ := exists_spokenPoint hpack hperiod
    rw [hp] at hread
    exact exists_of_comma hpack hperiod hp ht hmark hn hread

end Marks

end NumeralMark

end CalcSpeech
