import CalcSpeech.Proofs.Pattern.Context

/-!
# Reading in a cut text

A stretch that was found in a text may be cut out of it and searched once more. What came behind
the stretch is gone then, and with it the readings that go beyond the cut; the question is whether
the readings that remain are the same, in the same order of preference.

A place behind a reading is given by the length of what was read, so readings are compared by
`Pattern.lengths`, which knows nothing of groups. `CutAt` says that the cut makes no difference, and
every way to put patterns together keeps that. What is preferred in the whole text and lies within
the cut is then preferred in the cut (`CutAt.head?_eq`).
-/

namespace CalcSpeech.Pattern

open Unicode

/-- The lengths of the texts that a pattern can read at the beginning of `rest`, in order of
preference. -/
def lengths (p : Pattern) (b : Option Char) (rest : List Char) : List Nat :=
  (p.spots ⟨0, b, rest, []⟩).map (·.offset)

section Lengths

variable {p q : Pattern} {b : Option Char} {rest : List Char} {n : Nat}

theorem map_offset_spots (p : Pattern) (s : Spot) :
    (p.spots s).map (·.offset) = (p.lengths s.before s.rest).map (s.offset + ·) := by
  have hlater := p.spots_later s.offset s.groups ⟨0, s.before, s.rest, []⟩
  have hself : Spot.later s.offset s.groups ⟨0, s.before, s.rest, []⟩ = s := by simp [Spot.later]
  rw [hself] at hlater
  rw [hlater, lengths, List.map_map, List.map_map]
  rfl

/-- The lengths that are listed are those of the texts that can be read. -/
theorem mem_lengths :
    n ∈ p.lengths b rest ↔ ∃ w a k, rest = w ++ a ∧ w.length = n ∧ p.Reads b w a k := by
  rw [lengths, List.mem_map]
  constructor
  · rintro ⟨t, ht, rfl⟩
    obtain ⟨w, kept, hw, htw, hread⟩ := ends_of_mem_spots p _ t ht
    have hoffset : t.offset = 0 + w.length := by rw [htw]; rfl
    exact ⟨w, t.rest, _, hw, by rw [hoffset, Nat.zero_add], hread⟩
  · rintro ⟨w, a, k, rfl, rfl, hread⟩
    obtain ⟨kept, -, hmem⟩ := listed_of_reads hread 0 []
    exact ⟨_, hmem, Nat.zero_add _⟩

theorem le_of_mem_lengths (h : n ∈ p.lengths b rest) : n ≤ rest.length := by
  obtain ⟨w, a, -, rfl, rfl, -⟩ := mem_lengths.mp h
  simp

/-- What a pattern that needs something reads has some length. -/
theorem NeedsAt.pos_of_mem_lengths {Q : Option Char → List Char → Prop} (hp : p.NeedsAt Q)
    (h : n ∈ p.lengths b rest) : 0 < n := by
  obtain ⟨w, a, k, -, rfl, hread⟩ := mem_lengths.mp h
  obtain ⟨u, v, rfl, hne, -⟩ := hp _ _ _ _ hread
  have := List.length_pos_iff.mpr hne
  rw [List.length_append]
  omega

theorem OpensAt.lengths_eq_nil {Q : Option Char → List Char → Prop} (hp : p.OpensAt Q)
    (h : ¬ Q b rest) : p.lengths b rest = [] := by
  rw [lengths, hp.spots_eq_nil h, List.map_nil]

/-- Only whether a word has been begun makes a difference to what is read. -/
theorem lengths_congr (p : Pattern) {b' : Option Char} (rest : List Char)
    (h : b.any isWordCharacter = b'.any isWordCharacter) :
    p.lengths b rest = p.lengths b' rest := by
  have hoffset (us : List Spot) :
      us.map (·.offset) = (us.map Spot.blur).map (·.offset) := by
    rw [List.map_map]
    rfl
  rw [lengths, lengths, hoffset, p.map_blur_spots_congr rest h, ← hoffset]

/-! ### The ways to put patterns together -/

theorem lengths_alt : (alt p q).lengths b rest = p.lengths b rest ++ q.lengths b rest := by
  simp only [lengths, spots, List.map_append]

theorem lengths_group (i : Nat) : (group i p).lengths b rest = p.lengths b rest := by
  simp only [lengths, spots, List.map_map]
  rfl

theorem lengths_oneOf (ps : List Pattern) :
    (oneOf ps).lengths b rest = ps.flatMap (·.lengths b rest) := by
  rw [lengths, spots_oneOf, List.map_flatMap]
  rfl

theorem lengths_char_cons {f : Char → Bool} (c : Char) :
    (char f).lengths b (c :: rest) = if f c then [1] else [] := by
  by_cases hc : f c = true <;> simp [lengths, spots, hc, Spot.advance]

/-- The second pattern is read from behind what the first one reads. -/
theorem flatMap_offset_spots (ts : List Spot) (f : Spot → List Spot) (g : Nat → List Nat)
    (h : ∀ t ∈ ts, (f t).map (·.offset) = g t.offset) :
    (ts.flatMap f).map (·.offset) = (ts.map (·.offset)).flatMap g := by
  rw [List.map_flatMap, List.flatMap_map]
  exact List.flatMap_congr h

theorem map_offset_behind (q : Pattern) {t : Spot} (ht : t ∈ p.spots ⟨0, b, rest, []⟩) :
    (q.spots t).map (·.offset) =
      (q.lengths (behind b (rest.take t.offset)) (rest.drop t.offset)).map (t.offset + ·) := by
  obtain ⟨w, kept, hw, htw, -⟩ := ends_of_mem_spots p _ t ht
  have hw : rest = w ++ t.rest := hw
  have hoffset : t.offset = w.length := by
    rw [htw]
    exact Nat.zero_add _
  have hbefore : t.before = behind b w := by rw [htw]; rfl
  have htake : rest.take t.offset = w := by rw [hw, hoffset, List.take_left]
  have hdrop : rest.drop t.offset = t.rest := by rw [hoffset, hw, List.drop_left]
  rw [map_offset_spots, htake, hdrop, hbefore]

theorem lengths_seq : (seq p q).lengths b rest = (p.lengths b rest).flatMap fun n =>
    (q.lengths (behind b (rest.take n)) (rest.drop n)).map (n + ·) :=
  flatMap_offset_spots _ _ _ fun _ ht => map_offset_behind q ht

/-- A row of items goes on behind each item, or ends. -/
theorem lengths_many : (many p).lengths b rest = ((p.lengths b rest).filter (0 < ·)).flatMap
    (fun n => ((many p).lengths (behind b (rest.take n)) (rest.drop n)).map (n + ·)) ++ [0] := by
  cases rest with
  | nil =>
    have hnone : (p.lengths b []).filter (0 < ·) = [] := by
      rw [List.filter_eq_nil_iff]
      intro n hn
      have := le_of_mem_lengths hn
      simpa using this
    rw [hnone]
    rfl
  | cons c left =>
    have hrow : ∀ t ∈ (p.spots ⟨0, b, c :: left, []⟩).filter (0 < ·.offset),
        (spotsMany p.spots left t).map (·.offset) =
          ((many p).lengths (behind b ((c :: left).take t.offset))
            ((c :: left).drop t.offset)).map (t.offset + ·) := by
      intro t ht
      obtain ⟨hmem, hpos⟩ := List.mem_filter.mp ht
      have hpos := of_decide_eq_true hpos
      obtain ⟨w, kept, hw, htw, -⟩ := ends_of_mem_spots p _ t hmem
      have hshort : t.rest.length ≤ left.length := by
        have hoffset : t.offset = w.length := by
          rw [htw]
          exact Nat.zero_add _
        have hlength := congrArg List.length hw
        simp only [List.length_cons, List.length_append] at hlength
        omega
      rw [← map_offset_behind (many p) hmem, spots, spotsMany_congr p _ _ hshort (Nat.le_refl _)]
    have hfilter : ((p.spots ⟨0, b, c :: left, []⟩).filter (0 < ·.offset)).map (·.offset) =
        (p.lengths b (c :: left)).filter (0 < ·) := by
      rw [lengths, List.filter_map]
      rfl
    rw [← hfilter, ← flatMap_offset_spots _ _ _ hrow]
    show (spotsMany p.spots (c :: left) ⟨0, b, c :: left, []⟩).map (·.offset) = _
    rw [spotsMany, List.map_append]
    rfl

/-- Three patterns in a row are two in a row and one more. -/
theorem lengths_seq_assoc (p q r : Pattern) :
    (seq (seq p q) r).lengths b rest = (seq p (seq q r)).lengths b rest := by
  simp only [lengths, spots, List.flatMap_assoc]

/-- With what may stand in front of it a pattern is read first, and then without. -/
theorem lengths_optional_seq (p q : Pattern) : (seq (optional p) q).lengths b rest =
    (seq p q).lengths b rest ++ q.lengths b rest := by
  simp only [lengths, optional, spots, List.flatMap_append, List.flatMap_cons, List.flatMap_nil,
    List.append_nil, List.map_append]

end Lengths

/-! ## The match that comes first -/

section Matches

variable {p : Pattern} {b : Option Char} {w a rest : List Char}

/-- A match has the first length that is not zero. -/
theorem map_length_matchAt? (p : Pattern) (b : Option Char) (rest : List Char) :
    (p.matchAt? b rest).map (·.text.length) = (p.lengths b rest).find? (0 < ·) := by
  have hfind (us : List Spot) (hus : ∀ t ∈ us, t.offset ≤ rest.length) :
      ((us.findSome? fun t => if 0 < t.offset then some t else none).map fun t =>
        (rest.take t.offset).length) = (us.map (·.offset)).find? (0 < ·) := by
    induction us with
    | nil => rfl
    | cons t us ih =>
      obtain ⟨ht, hrest⟩ := List.forall_mem_cons.mp hus
      by_cases hpos : 0 < t.offset
      · simp [hpos, Nat.min_eq_left ht]
      · simpa [List.findSome?_cons, hpos] using ih hrest
  rw [matchAt?, run_eq, Option.map_map, lengths, ← hfind]
  · rfl
  · intro t ht
    exact le_of_mem_lengths (List.mem_map_of_mem ht)

/-- Where every reading has some length a match has the first one. -/
theorem head?_lengths_of_matchAt? {Q : Option Char → List Char → Prop} (hp : p.NeedsAt Q)
    {m : Match} (h : p.matchAt? b rest = some m) :
    (p.lengths b rest).head? = some m.text.length := by
  have hfind := map_length_matchAt? p b rest
  rw [h, Option.map_some] at hfind
  cases hlengths : p.lengths b rest with
  | nil =>
    rw [hlengths] at hfind
    cases hfind
  | cons n ns =>
    have hpos : 0 < n := hp.pos_of_mem_lengths (by rw [hlengths]; exact List.mem_cons_self)
    rw [hlengths, List.find?_cons_of_pos (by simpa using hpos)] at hfind
    exact hfind.symm

/-- What has the first length is what a search finds. -/
theorem exists_matchAt?_of_head? (hne : w ≠ [])
    (h : (p.lengths b (w ++ a)).head? = some w.length) :
    ∃ m, p.matchAt? b (w ++ a) = some m ∧ m.text = w := by
  have hpos := List.length_pos_iff.mpr hne
  obtain ⟨others, hlengths⟩ := List.head?_eq_some_iff.mp h
  have hfind := map_length_matchAt? p b (w ++ a)
  rw [hlengths, List.find?_cons_of_pos (by simpa using hpos), Option.map_eq_some_iff] at hfind
  obtain ⟨m, hm, hlength⟩ := hfind
  obtain ⟨-, a', ha, -⟩ := reads_of_matchAt? hm
  exact ⟨m, hm, (List.append_inj ha hlength.symm).1.symm⟩

/-- A match that a search finds is one at its place. -/
theorem exists_of_mem_matchesAfter {m : Match} (h : m ∈ p.matchesAfter b rest) :
    ∃ b' a, p.matchAt? b' (m.text ++ a) = some m := by
  induction b, rest using p.search_induction with
  | nil => cases h
  | plain b c rest hc ih =>
    rw [matchesAfter_plain hc] at h
    exact ih h
  | found b m' a hm _ ih =>
    rw [matchesAfter_found hm] at h
    rcases List.mem_cons.mp h with rfl | h
    · exact ⟨b, a, hm⟩
    · exact ih h

end Matches

/-! ## Cuts -/

/-- Behind `b` the pattern reads in `r` what it reads in the whole text `r ++ a`, as far as that
lies within `r`. -/
def CutAt (p : Pattern) (b : Option Char) (r a : List Char) : Prop :=
  (p.lengths b (r ++ a)).filter (· ≤ r.length) = p.lengths b r

section Cut

variable {p q : Pattern} {b : Option Char} {r w a : List Char}

/-- What comes first in the whole text comes first in the cut. -/
theorem CutAt.head?_eq (h : p.CutAt b (w ++ r) a)
    (hfirst : (p.lengths b (w ++ r ++ a)).head? = some w.length) :
    (p.lengths b (w ++ r)).head? = some w.length := by
  obtain ⟨others, hlengths⟩ := List.head?_eq_some_iff.mp hfirst
  rw [← h, hlengths, List.filter_cons_of_pos (by simp)]
  rfl

/-- Of lengths in a row those are kept that together lie within a bound. -/
theorem filter_flatMap_add (ns : List Nat) (f : Nat → List Nat) (bound : Nat) :
    (ns.flatMap fun n => (f n).map (n + ·)).filter (· ≤ bound) =
      (ns.filter (· ≤ bound)).flatMap fun n => ((f n).filter (· ≤ bound - n)).map (n + ·) := by
  have hone (n : Nat) : ((f n).map (n + ·)).filter (· ≤ bound) =
      if n ≤ bound then ((f n).filter (· ≤ bound - n)).map (n + ·) else [] := by
    rw [List.filter_map]
    split
    · congr 2
      funext m
      exact decide_eq_decide.mpr (show n + m ≤ bound ↔ m ≤ bound - n by omega)
    · rw [List.map_eq_nil_iff, List.filter_eq_nil_iff]
      intro m _
      simp only [Function.comp, decide_eq_true_eq]
      omega
  induction ns with
  | nil => rfl
  | cons n ns ih =>
    rw [List.flatMap_cons, List.filter_append, ih, hone]
    by_cases hn : n ≤ bound
    · rw [if_pos hn, List.filter_cons_of_pos (by simpa using hn), List.flatMap_cons]
    · rw [if_neg hn, List.filter_cons_of_neg (by simpa using hn), List.nil_append]

/-- Behind what is read within the cut, the cut is what is left of it. -/
theorem flatMap_cut {ns : List Nat} (hns : ∀ n ∈ ns, n ≤ r.length)
    (h : ∀ n ∈ ns, q.CutAt (behind b (r.take n)) (r.drop n) a) :
    (ns.flatMap fun n => ((q.lengths (behind b ((r ++ a).take n)) ((r ++ a).drop n)).filter
        (· ≤ r.length - n)).map (n + ·)) =
      ns.flatMap fun n => (q.lengths (behind b (r.take n)) (r.drop n)).map (n + ·) := by
  apply List.flatMap_congr
  intro n hn
  have hcut := h n hn
  rw [CutAt, List.length_drop] at hcut
  rw [List.take_append_of_le_length (hns n hn), List.drop_append_of_le_length (hns n hn), hcut]

theorem cutAt_empty : empty.CutAt b r a := rfl

theorem cutAt_char {f : Char → Bool} : (char f).CutAt b r a := by
  rw [CutAt]
  cases r with
  | nil =>
    rw [List.filter_eq_nil_iff.mpr]
    · rfl
    · intro n hn
      have hpos := (needs_char (f := f)).pos_of_mem_lengths hn
      simp only [List.length_nil, decide_eq_true_eq]
      omega
  | cons c r =>
    rw [List.cons_append, lengths_char_cons, lengths_char_cons]
    split <;> rfl

theorem CutAt.alt (hp : p.CutAt b r a) (hq : q.CutAt b r a) : (alt p q).CutAt b r a := by
  rw [CutAt] at *
  rw [lengths_alt, lengths_alt, List.filter_append, hp, hq]

theorem CutAt.optional (hp : p.CutAt b r a) : (optional p).CutAt b r a := hp.alt cutAt_empty

theorem CutAt.group (hp : p.CutAt b r a) (i : Nat) : (group i p).CutAt b r a := by
  rw [CutAt] at *
  rw [lengths_group, lengths_group, hp]

theorem cutAt_oneOf {ps : List Pattern} (h : ∀ p ∈ ps, p.CutAt b r a) : (oneOf ps).CutAt b r a := by
  rw [CutAt, lengths_oneOf, lengths_oneOf, List.filter_flatMap]
  exact List.flatMap_congr h

/-- Two patterns in a row agree with a cut if the second one does behind all that the first one
reads. -/
theorem CutAt.seq (hp : p.CutAt b r a)
    (hq : ∀ u v k, r = u ++ v → p.Reads b u v k → q.CutAt (behind b u) v a) :
    (seq p q).CutAt b r a := by
  rw [CutAt, lengths_seq, lengths_seq, filter_flatMap_add, hp]
  refine flatMap_cut (fun n hn => le_of_mem_lengths hn) fun n hn => ?_
  obtain ⟨u, v, k, hr, hlength, hread⟩ := mem_lengths.mp hn
  rw [hr, ← hlength, List.take_left, List.drop_left]
  exact hq u v k hr hread

/-- A row of items agrees with a cut if the item does from each place in it. -/
theorem cutAt_many (h : ∀ u v, r = u ++ v → p.CutAt (behind b u) v a) : (many p).CutAt b r a := by
  -- the rows behind an item lie in what is left of the cut, which is shorter
  induction hsize : r.length using Nat.strongRecOn generalizing b r with
  | ind size ih =>
    have hhere : p.CutAt b r a := h [] r rfl
    have hsame : ((p.lengths b (r ++ a)).filter (0 < ·)).filter (· ≤ r.length) =
        (p.lengths b r).filter (0 < ·) := by
      rw [List.filter_filter, ← hhere, List.filter_filter]
      congr 1
      funext n
      exact Bool.and_comm _ _
    rw [CutAt, lengths_many, lengths_many, List.filter_append, filter_flatMap_add, hsame,
      flatMap_cut]
    · rfl
    · intro n hn
      exact le_of_mem_lengths (List.mem_filter.mp hn).1
    · intro n hn
      obtain ⟨hn, hpos⟩ := List.mem_filter.mp hn
      have hpos := of_decide_eq_true hpos
      have hle := le_of_mem_lengths hn
      refine ih (r.drop n).length ?_ (fun u v huv => ?_) rfl
      · rw [List.length_drop]
        omega
      · rw [← behind_append]
        exact h (r.take n ++ u) v (by rw [List.append_assoc, ← huv, List.take_append_drop])

theorem cutAt_gap : gap.CutAt b r a :=
  cutAt_char.seq fun _ _ _ _ _ => cutAt_many fun _ _ _ => cutAt_char

/-- In a cut of nothing a pattern that needs something reads nothing. -/
theorem NeedsAt.cutAt_nil {Q : Option Char → List Char → Prop} (hp : p.NeedsAt Q) :
    p.CutAt b [] a := by
  have hnone {rest : List Char} : (p.lengths b rest).filter (· ≤ 0) = [] := by
    rw [List.filter_eq_nil_iff]
    intro n hn
    have := hp.pos_of_mem_lengths hn
    simp only [decide_eq_true_eq]
    omega
  have hself : (p.lengths b []).filter (· ≤ 0) = p.lengths b [] := by
    rw [List.filter_eq_self]
    intro n hn
    exact decide_eq_true (le_of_mem_lengths hn)
  rw [CutAt, ← hself, hnone]
  exact hnone

end Cut

/-! ## Rows of items, and gaps in front of an item -/

section Rows

variable {p q : Pattern} {b : Option Char} {rest g x : List Char} {n : Nat}

/-- Two patterns in a row of which the second one can always be read begin with what the first one
prefers. -/
theorem head?_lengths_seq (h : ((seq p q).lengths b rest).head? = some n)
    (hq : ∀ b rest, q.lengths b rest ≠ []) : ∃ m k, n = m + k ∧
      (p.lengths b rest).head? = some m ∧
      (q.lengths (behind b (rest.take m)) (rest.drop m)).head? = some k := by
  rw [lengths_seq] at h
  cases hp : p.lengths b rest with
  | nil =>
    rw [hp] at h
    cases h
  | cons m ms =>
    rw [hp, List.flatMap_cons] at h
    obtain ⟨k, ks, hk⟩ := List.exists_cons_of_ne_nil (hq (behind b (rest.take m)) (rest.drop m))
    rw [hk] at h
    exact ⟨m, k, (Option.some.inj h).symm, rfl, by rw [hk]; rfl⟩

theorem lengths_many_ne_nil (p : Pattern) (b : Option Char) (rest : List Char) :
    (many p).lengths b rest ≠ [] := by
  rw [lengths_many]
  exact List.append_ne_nil_of_right_ne_nil _ (List.cons_ne_nil _ _)

/-- A row that is preferred is empty, or begins with the item that is preferred. -/
theorem head?_lengths_many {Q : Option Char → List Char → Prop} (hp : p.NeedsAt Q)
    (h : ((many p).lengths b rest).head? = some n) : n = 0 ∨ ∃ m k, n = m + k ∧
      (p.lengths b rest).head? = some m ∧
      ((many p).lengths (behind b (rest.take m)) (rest.drop m)).head? = some k := by
  have hall : (p.lengths b rest).filter (0 < ·) = p.lengths b rest := by
    rw [List.filter_eq_self]
    intro m hm
    exact decide_eq_true (hp.pos_of_mem_lengths hm)
  rw [lengths_many, hall, ← lengths_seq] at h
  cases hseq : (seq p (many p)).lengths b rest with
  | nil =>
    rw [hseq] at h
    exact Or.inl (Option.some.inj h).symm
  | cons m ms =>
    rw [hseq] at h
    refine Or.inr (head?_lengths_seq ?_ (lengths_many_ne_nil p))
    rw [hseq]
    exact h

/-- Of all gaps in front of a pattern that begins with no blank the longest one is the only one. -/
theorem lengths_loose_seq (hp : p.Opens fun c => !isBlank c) (hg : ∀ c ∈ g, isBlank c = true)
    (hx : x.head?.any isBlank = false) :
    (seq (many (char isBlank)) p).lengths b (g ++ x) =
      (p.lengths (behind b g) x).map (g.length + ·) := by
  induction g generalizing b with
  | nil =>
    have hnone : ((char isBlank).lengths b x).filter (0 < ·) = [] := by
      rw [opens_char.lengths_eq_nil (by rw [hx]; exact Bool.false_ne_true)]
      rfl
    rw [List.nil_append, lengths_seq, lengths_many, hnone]
    simp
  | cons c g ih =>
    obtain ⟨hc, hrest⟩ := List.forall_mem_cons.mp hg
    have hnone : p.lengths b (c :: (g ++ x)) = [] := hp.lengths_eq_nil (by simp [hc])
    have hone : ((char isBlank).lengths b (c :: (g ++ x))).filter (0 < ·) = [1] := by
      rw [lengths_char_cons, if_pos hc]
      rfl
    have hsplit : (seq (many (char isBlank)) p).lengths b (c :: (g ++ x)) =
        ((seq (many (char isBlank)) p).lengths (some c) (g ++ x)).map (1 + ·) := by
      rw [lengths_seq, lengths_many, hone, lengths_seq]
      simp [hnone, List.flatMap_map, List.map_flatMap, Function.comp_def, Nat.add_comm 1,
        Nat.add_assoc]
    rw [List.cons_append, hsplit, ih hrest, List.map_map, List.length_cons]
    apply List.map_congr_left
    intro m _
    simp only [Function.comp]
    omega

/-- With a gap in front, a pattern that begins with no blank is read behind the whole gap. -/
theorem lengths_gap_seq (hp : p.Opens fun c => !isBlank c) (hne : g ≠ [])
    (hg : ∀ c ∈ g, isBlank c = true) (hx : x.head?.any isBlank = false) :
    (seq gap p).lengths b (g ++ x) = (p.lengths (behind b g) x).map (g.length + ·) := by
  obtain ⟨c, g, rfl⟩ := List.exists_cons_of_ne_nil hne
  obtain ⟨hc, hrest⟩ := List.forall_mem_cons.mp hg
  rw [gap, atLeastOne, lengths_seq_assoc, lengths_seq, List.cons_append, lengths_char_cons,
    if_pos hc, List.flatMap_singleton]
  show ((seq (many (char isBlank)) p).lengths (some c) (g ++ x)).map (1 + ·) = _
  rw [lengths_loose_seq hp hrest hx, List.map_map, List.length_cons]
  apply List.map_congr_left
  intro m _
  simp only [Function.comp]
  omega

end Rows

end CalcSpeech.Pattern
