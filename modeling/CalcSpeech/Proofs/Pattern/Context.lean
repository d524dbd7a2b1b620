import CalcSpeech.Proofs.Pattern.Shapes

/-!
# What stands before a text

A pattern sees nothing of what was read before it but whether the last character of that holds a
word together. So a text is rewritten in the same way behind all characters of one side of that
line (`rewriteAfter_congr`), and behind a stretch in which no match starts as if it stood alone
(`rewrite_append`). Of how much was read before and of what was kept then it sees nothing at all, so
where something can be read one text is preferred from everywhere (`exists_prefers`).
-/

namespace CalcSpeech

open Unicode

/-- A place with the character before it replaced by one that only tells whether it holds a word
together. -/
def Spot.blur (s : Spot) : Spot :=
  { s with before := if s.before.any isWordCharacter then some 'a' else none }

namespace Pattern

theorem any_blur (s : Spot) : s.blur.before.any isWordCharacter = s.before.any isWordCharacter := by
  have hletter : isWordCharacter 'a' = true := by decide
  unfold Spot.blur
  by_cases h : s.before.any isWordCharacter = true
  · rw [if_pos h, h]
    exact hletter
  · rw [if_neg h, Bool.not_eq_true] at *
    rw [h]
    rfl

theorem blur_blur (s : Spot) : s.blur.blur = s.blur := by
  have h := any_blur s
  unfold Spot.blur at h ⊢
  simp only [h]

/-- Two ways on that agree on blurred places lead to the same blurred places. -/
theorem map_blur_flatMap {ss ts : List Spot} {f : Spot → List Spot}
    (hs : ss.map Spot.blur = ts.map Spot.blur)
    (hf : ∀ s, (f s).map Spot.blur = (f s.blur).map Spot.blur) :
    (ss.flatMap f).map Spot.blur = (ts.flatMap f).map Spot.blur := by
  have hthrough (us : List Spot) : (us.flatMap f).map Spot.blur =
      (us.map Spot.blur).flatMap fun s => (f s).map Spot.blur := by
    rw [List.map_flatMap, List.flatMap_map]
    congr 1
    funext s
    exact hf s
  rw [hthrough, hthrough, hs]

theorem map_blur_spotsMany {item : Spot → List Spot}
    (h : ∀ s, (item s).map Spot.blur = (item s.blur).map Spot.blur) (left : List Char) (s : Spot) :
    (spotsMany item left s).map Spot.blur = (spotsMany item left s.blur).map Spot.blur := by
  induction left generalizing s with
  | nil => simp [spotsMany, blur_blur]
  | cons _ left ih =>
    have hfilter (o : Nat) (us : List Spot) :
        (us.filter (o < ·.offset)).map Spot.blur = (us.map Spot.blur).filter (o < ·.offset) := by
      rw [List.filter_map]
      rfl
    have hlonger : ((item s).filter (s.offset < ·.offset)).map Spot.blur =
        ((item s.blur).filter (s.blur.offset < ·.offset)).map Spot.blur := by
      rw [hfilter, hfilter, h s]
      rfl
    simp only [spotsMany, List.map_append, List.map_singleton, blur_blur]
    rw [map_blur_flatMap hlonger ih]

/-- The places that a match can end at, up to what stands before them, are the same from places
that are the same up to that. -/
theorem map_blur_spots (p : Pattern) (s : Spot) :
    (p.spots s).map Spot.blur = (p.spots s.blur).map Spot.blur := by
  -- only a boundary looks at what stands before, and it asks no more than what is kept
  induction p generalizing s with
  | never => rfl
  | empty => simp [spots, blur_blur]
  | boundary =>
    have hside : isWordBoundary s.blur.before s.blur.rest.head? =
        isWordBoundary s.before s.rest.head? := by
      unfold isWordBoundary
      rw [any_blur]
      rfl
    simp only [spots, hside]
    split <;> simp [blur_blur]
  | char test => rfl
  | seq p q ihp ihq => exact map_blur_flatMap ((ihp s).trans rfl) ihq
  | alt p q ihp ihq => simp only [spots, List.map_append, ihp s, ihq s]
  | many p ih => exact map_blur_spotsMany ih s.rest s
  | group i p ih =>
    have hkeep (us : List Spot) : (us.map (·.keep i s)).map Spot.blur =
        (us.map Spot.blur).map (·.keep i s) := by
      rw [List.map_map, List.map_map]
      rfl
    have hsame (us : List Spot) : us.map (·.keep i s) = us.map (·.keep i s.blur) := rfl
    simp only [spots]
    rw [hkeep, ih s, ← hkeep, hsame]
  | ahead test p ih =>
    have hrest : s.blur.rest = s.rest := rfl
    simp only [spots, hrest]
    split
    · exact ih s
    · rfl

/-- Of what stands before a text it only matters whether a word has been begun. -/
theorem map_blur_spots_congr (p : Pattern) {b b' : Option Char} (rest : List Char)
    (h : b.any isWordCharacter = b'.any isWordCharacter) :
    (p.spots ⟨0, b, rest, []⟩).map Spot.blur = (p.spots ⟨0, b', rest, []⟩).map Spot.blur := by
  have hblur : (⟨0, b, rest, []⟩ : Spot).blur = (⟨0, b', rest, []⟩ : Spot).blur := by
    simp only [Spot.blur, h]
  rw [map_blur_spots p, hblur, ← map_blur_spots p]

/-- The match at a place goes by what follows, and by whether a word has been begun. -/
theorem matchAt?_congr (p : Pattern) {b b' : Option Char} (rest : List Char)
    (h : b.any isWordCharacter = b'.any isWordCharacter) :
    p.matchAt? b rest = p.matchAt? b' rest := by
  have hfound (us : List Spot) : (us.findSome? fun t => if 0 < t.offset then some t else none).map
      (fun t => (⟨rest.take t.offset, t.groups.map fun g => (g.1, g.2.text)⟩ : Match)) =
      ((us.map Spot.blur).findSome? fun t => if 0 < t.offset then some t else none).map
      (fun t => (⟨rest.take t.offset, t.groups.map fun g => (g.1, g.2.text)⟩ : Match)) := by
    induction us with
    | nil => rfl
    | cons u us ih =>
      simp only [List.map_cons, List.findSome?_cons]
      by_cases hu : 0 < u.offset
      · rw [if_pos hu, if_pos (show 0 < u.blur.offset from hu)]
        rfl
      · rw [if_neg hu, if_neg (show ¬ 0 < u.blur.offset from hu)]
        exact ih
  rw [matchAt?, run_eq, hfound, p.map_blur_spots_congr rest h, ← hfound, ← run_eq]
  rfl

theorem rewriteAfter_congr (p : Pattern) (change : Match → List Char) {b b' : Option Char}
    (text : List Char) (h : b.any isWordCharacter = b'.any isWordCharacter) :
    p.rewriteAfter change b text = p.rewriteAfter change b' text := by
  cases text with
  | nil => rfl
  | cons c rest =>
    cases hm : p.matchAt? b (c :: rest) with
    | none =>
      rw [rewriteAfter_plain change hm, rewriteAfter_plain change (matchAt?_congr p _ h ▸ hm)]
    | some m =>
      obtain ⟨hne, a, ha, -⟩ := reads_of_matchAt? hm
      rw [ha] at hm ⊢
      rw [rewriteAfter_found change hm, rewriteAfter_found change (matchAt?_congr p _ h ▸ hm),
        behind_congr hne b b']

/-- A pattern that opens with no space passes over one. -/
theorem rewriteAfter_space {p : Pattern} {f : Char → Bool} (hp : p.Opens f) (hf : f ' ' = false)
    (change : Match → List Char) (b : Option Char) (text : List Char) :
    p.rewriteAfter change b (' ' :: text) = ' ' :: p.rewrite change text := by
  have hno : p.matchAt? b (' ' :: text) = none :=
    hp.matchAt?_eq_none fun h => Bool.false_ne_true (hf.symm.trans h)
  have hstart : p.rewriteAfter change (some ' ') text = p.rewriteAfter change none text :=
    rewriteAfter_congr p change text behind_space
  rw [rewriteAfter_plain change hno, rewrite_eq_rewriteAfter, hstart]

/-- A text behind a stretch in which no match starts, and which does not end in a word, is
rewritten as if it stood alone. -/
theorem rewrite_append {p : Pattern} (change : Match → List Char) {u text : List Char}
    (hu : p.Quiet none u text) (hend : (behind none u).any isWordCharacter = false) :
    p.rewrite change (u ++ text) = u ++ p.rewrite change text := by
  rw [rewrite_eq_rewriteAfter, rewriteAfter_quiet change hu]
  exact congrArg (u ++ ·) (rewriteAfter_congr p change text hend)

end Pattern

/-- The same place where `o` characters were read before and the stretches `g` kept. -/
def Spot.later (o : Nat) (g : List (Nat × Stretch)) (s : Spot) : Spot :=
  { s with offset := o + s.offset, groups := s.groups ++ g }

namespace Pattern

theorem spotsMany_later {item : Spot → List Spot} {o : Nat} {g : List (Nat × Stretch)}
    (h : ∀ s, item (s.later o g) = (item s).map (Spot.later o g)) (left : List Char) (s : Spot) :
    spotsMany item left (s.later o g) = (spotsMany item left s).map (Spot.later o g) := by
  induction left generalizing s with
  | nil => rfl
  | cons _ left ih =>
    have hlonger : (item (s.later o g)).filter ((s.later o g).offset < ·.offset) =
        ((item s).filter (s.offset < ·.offset)).map (Spot.later o g) := by
      rw [h, List.filter_map]
      congr 2
      funext t
      simp [Spot.later]
    rw [spotsMany, spotsMany, hlonger, List.map_append, List.map_flatMap, List.flatMap_map]
    simp only [ih, List.map_singleton]

/-- The places that a match can end at do not depend on what was read and kept before. -/
theorem spots_later (p : Pattern) (o : Nat) (g : List (Nat × Stretch)) (s : Spot) :
    p.spots (s.later o g) = (p.spots s).map (Spot.later o g) := by
  induction p generalizing s with
  | never => rfl
  | empty => rfl
  | boundary =>
    have hsame : (s.later o g).before = s.before ∧ (s.later o g).rest = s.rest := ⟨rfl, rfl⟩
    rw [spots, spots, hsame.1, hsame.2]
    split <;> rfl
  | char test =>
    have hsame : (s.later o g).rest = s.rest := rfl
    rw [spots, spots, hsame]
    split
    · rfl
    · split <;> rfl
  | seq p q ihp ihq =>
    simp only [spots, ihp, List.flatMap_map, ihq, List.map_flatMap]
  | alt p q ihp ihq => simp only [spots, ihp, ihq, List.map_append]
  | many p ih => exact spotsMany_later ih s.rest s
  | group i p ih =>
    have hkeep (t : Spot) : (t.later o g).keep i (s.later o g) = (t.keep i s).later o g := by
      simp [Spot.keep, Spot.later, Spot.stretch, Nat.add_sub_add_left]
    simp only [spots, ih, List.map_map]
    congr 1
    funext t
    exact hkeep t
  | ahead test p ih =>
    have hsame : (s.later o g).rest = s.rest := rfl
    rw [spots, spots, hsame]
    split
    · exact ih s
    · rfl

/-- Where something can be read there is a text that is preferred. -/
theorem exists_prefers {p : Pattern} {b : Option Char} {w a : List Char}
    {k : List (Nat × List Char)} (h : p.Reads b w a k) :
    ∃ v r l, w ++ a = v ++ r ∧ p.Reads b v r l ∧ p.Prefers b v r l := by
  obtain ⟨kept, -, hmem⟩ := listed_of_reads h 0 []
  cases hspots : p.spots ⟨0, b, w ++ a, []⟩ with
  | nil =>
    rw [hspots] at hmem
    cases hmem
  | cons t others =>
    obtain ⟨v, kept, hv, ht, hread⟩ :=
      ends_of_mem_spots p ⟨0, b, w ++ a, []⟩ t (by rw [hspots]; exact List.mem_cons_self)
    have hv : w ++ a = v ++ t.rest := hv
    refine ⟨v, t.rest, texts kept, hv, hread, fun o g => ⟨kept, rfl, ?_⟩⟩
    have hlater := p.spots_later o g ⟨0, b, w ++ a, []⟩
    rw [hspots, List.map_cons] at hlater
    rw [← hv]
    refine first_of_spots (others.map (Spot.later o g)) (hlater.trans ?_)
    rw [ht]
    simp [Spot.later, past]

end Pattern

end CalcSpeech
