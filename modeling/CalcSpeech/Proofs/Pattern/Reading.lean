import CalcSpeech.Pattern.Search
import CalcSpeech.Proofs.Text.Places

/-!
# What a pattern reads

`Pattern.Reads p before w after kept` says that `p` can read the text `w` between the character
`before` and the text `after`, keeping the stretches `kept`. It leaves out preference and says
nothing about places. A search asks for both, so the bridge has two halves: every place that
`Pattern.spots` lists ends a reading (`ends_of_mem_spots`), and every reading ends at a place in
that list (`listed_of_reads`). Hence no match starts at a place exactly when nothing but the
empty text is read there (`matchAt?_eq_none_iff`).
-/

namespace CalcSpeech

open Unicode

namespace Pattern

/-- A text that a pattern can read between its neighbours, with the stretches kept on the way,
last one first. -/
inductive Reads : Pattern → Option Char → List Char → List Char → List (Nat × List Char) → Prop
  | empty {b a} : Reads .empty b [] a []
  | boundary {b a} : isWordBoundary b a.head? = true → Reads .boundary b [] a []
  | char {f : Char → Bool} {b c a} : f c = true → Reads (.char f) b [c] a []
  | seq {p q b u v a ku kv} : Reads p b u (v ++ a) ku → Reads q (behind b u) v a kv →
      Reads (.seq p q) b (u ++ v) a (kv ++ ku)
  | left {p q b w a k} : Reads p b w a k → Reads (.alt p q) b w a k
  | right {p q b w a k} : Reads q b w a k → Reads (.alt p q) b w a k
  | done {p b a} : Reads (.many p) b [] a []
  | more {p b u v a ku kv} : u ≠ [] → Reads p b u (v ++ a) ku →
      Reads (.many p) (behind b u) v a kv → Reads (.many p) b (u ++ v) a (kv ++ ku)
  | group {i p b w a k} : Reads p b w a k → Reads (.group i p) b w a ((i, w) :: k)
  | ahead {f : Char → Bool} {p b w a k} : (w ++ a).head?.any f = true → Reads p b w a k →
      Reads (.ahead f p) b w a k

/-- What is kept is part of what is read. -/
theorem Reads.mem_of_kept {p : Pattern} {b : Option Char} {w a : List Char}
    {k : List (Nat × List Char)} (h : p.Reads b w a k) : ∀ g ∈ k, ∀ c ∈ g.2, c ∈ w := by
  have both {u v : List Char} {ku kv : List (Nat × List Char)}
      (hu : ∀ g ∈ ku, ∀ c ∈ g.2, c ∈ u) (hv : ∀ g ∈ kv, ∀ c ∈ g.2, c ∈ v) :
      ∀ g ∈ kv ++ ku, ∀ c ∈ g.2, c ∈ u ++ v := by
    intro g hg c hc
    rcases List.mem_append.mp hg with hg | hg
    · exact List.mem_append_right _ (hv g hg c hc)
    · exact List.mem_append_left _ (hu g hg c hc)
  induction h with
  | empty | boundary | char | done =>
    intro g hg
    cases hg
  | seq _ _ ihu ihv => exact both ihu ihv
  | left _ ih | right _ ih | ahead _ _ ih => exact ih
  | more _ _ _ ihu ihv => exact both ihu ihv
  | group _ ih =>
    intro g hg c hc
    rcases List.mem_cons.mp hg with rfl | hg
    · exact hc
    · exact ih g hg c hc

/-- A stretch kept by a match is part of its text. -/
theorem mem_of_mem_group {p : Pattern} {m : Match} {b : Option Char} {a : List Char}
    (h : p.Reads b m.text a m.groups) {i : Nat} {c : Char} (hc : c ∈ m.group i) : c ∈ m.text := by
  unfold Match.group Match.group? at hc
  cases hg : m.groups.lookup i with
  | none =>
    rw [hg] at hc
    cases hc
  | some g =>
    rw [hg] at hc
    obtain ⟨before, after, hgroups, -⟩ := List.lookup_eq_some_iff.mp hg
    exact h.mem_of_kept (i, g) (by rw [hgroups]; simp) c hc

/-- The place behind the text `w`, with the stretches `kept` on top. -/
def past (s : Spot) (w after : List Char) (kept : List (Nat × Stretch)) : Spot :=
  ⟨s.offset + w.length, behind s.before w, after, kept ++ s.groups⟩

/-- The texts of kept stretches. -/
def texts (kept : List (Nat × Stretch)) : List (Nat × List Char) :=
  kept.map fun g => (g.1, g.2.text)

theorem texts_append (k l : List (Nat × Stretch)) : texts (k ++ l) = texts k ++ texts l :=
  List.map_append

theorem past_nil {s : Spot} {a : List Char} (h : s.rest = a) : past s [] a [] = s := by
  subst h
  rfl

theorem past_past (s : Spot) (u v a a' : List Char) (k l : List (Nat × Stretch)) :
    past (past s u a k) v a' l = past s (u ++ v) a' (l ++ k) := by
  simp [past, Nat.add_assoc]

/-- Two readings in a row end where the second one does. -/
theorem past_row (o : Nat) (b : Option Char) (g : List (Nat × Stretch)) (u v a : List Char)
    (ku kv : List (Nat × Stretch)) :
    past ⟨o + u.length, behind b u, v ++ a, ku ++ g⟩ v a kv =
      past ⟨o, b, u ++ v ++ a, g⟩ (u ++ v) a (kv ++ ku) := by
  simp [past, Nat.add_assoc]

/-- What it means that `p` ends a reading from `s` at `t`. -/
def Ends (p : Pattern) (s t : Spot) : Prop :=
  ∃ w kept, s.rest = w ++ t.rest ∧ t = past s w t.rest kept ∧
    p.Reads s.before w t.rest (texts kept)

/-- Where one reading ends at the place that another starts from, both are readings in a row. -/
theorem Ends.row {p q : Pattern} {s m t : Spot} (hp : p.Ends s m) (hq : q.Ends m t) :
    ∃ u v ku kv, m.offset = s.offset + u.length ∧ s.rest = u ++ v ++ t.rest ∧
      t = past s (u ++ v) t.rest (kv ++ ku) ∧ p.Reads s.before u (v ++ t.rest) (texts ku) ∧
      q.Reads (behind s.before u) v t.rest (texts kv) := by
  obtain ⟨u, ku, hu, hmu, hread⟩ := hp
  obtain ⟨v, kv, hv, htv, hread'⟩ := hq
  have hbefore : m.before = behind s.before u := by rw [hmu]; rfl
  refine ⟨u, v, ku, kv, by rw [hmu]; rfl, by rw [hu, hv, List.append_assoc], ?_, ?_, ?_⟩
  · rw [htv, hmu, past_past]
    rfl
  · rw [← hv]
    exact hread
  · rw [← hbefore]
    exact hread'

/-- A row of readings of an item is a reading of the repetition. -/
theorem ends_of_mem_spotsMany {p : Pattern} (item : ∀ s, ∀ t ∈ p.spots s, p.Ends s t)
    (left : List Char) (s : Spot) : ∀ t ∈ spotsMany p.spots left s, (many p).Ends s t := by
  have stop (s : Spot) : (many p).Ends s s := ⟨[], [], rfl, rfl, .done⟩
  induction left generalizing s with
  | nil =>
    intro t ht
    rw [spotsMany, List.mem_singleton] at ht
    exact ht ▸ stop s
  | cons _ left ih =>
    intro t ht
    rw [spotsMany, List.mem_append, List.mem_singleton, List.mem_flatMap] at ht
    rcases ht with ⟨m, hm, ht⟩ | rfl
    · obtain ⟨hm, hlater⟩ := List.mem_filter.mp hm
      obtain ⟨u, v, ku, kv, hoffset, hrest, htv, hread, hrow⟩ := (item s m hm).row (ih m t ht)
      have hne : u ≠ [] := by
        intro he
        rw [hoffset, he] at hlater
        simp at hlater
      refine ⟨u ++ v, kv ++ ku, hrest, htv, ?_⟩
      rw [texts_append]
      exact .more hne hread hrow
    · exact stop t

/-- Every place that a match can end at ends a reading. -/
theorem ends_of_mem_spots (p : Pattern) (s : Spot) : ∀ t ∈ p.spots s, p.Ends s t := by
  induction p generalizing s with
  | never =>
    intro t ht
    cases ht
  | empty =>
    intro t ht
    rw [spots, List.mem_singleton] at ht
    subst ht
    exact ⟨[], [], rfl, rfl, .empty⟩
  | boundary =>
    intro t ht
    unfold spots at ht
    split at ht
    · rename_i hb
      rw [List.mem_singleton] at ht
      subst ht
      exact ⟨[], [], rfl, rfl, .boundary hb⟩
    · cases ht
  | char f =>
    intro t ht
    unfold spots at ht
    split at ht
    · cases ht
    · rename_i c rest hrest
      split at ht
      · rename_i hc
        rw [List.mem_singleton] at ht
        subst ht
        exact ⟨[c], [], hrest, rfl, .char hc⟩
      · cases ht
  | seq p q ihp ihq =>
    intro t ht
    rw [spots, List.mem_flatMap] at ht
    obtain ⟨m, hm, ht⟩ := ht
    obtain ⟨u, v, ku, kv, -, hrest, htv, hp, hq⟩ := (ihp s m hm).row (ihq m t ht)
    refine ⟨u ++ v, kv ++ ku, hrest, htv, ?_⟩
    rw [texts_append]
    exact .seq hp hq
  | alt p q ihp ihq =>
    intro t ht
    rw [spots, List.mem_append] at ht
    rcases ht with ht | ht
    · obtain ⟨w, k, hw, htw, hr⟩ := ihp s t ht
      exact ⟨w, k, hw, htw, .left hr⟩
    · obtain ⟨w, k, hw, htw, hr⟩ := ihq s t ht
      exact ⟨w, k, hw, htw, .right hr⟩
  | many p ih => exact ends_of_mem_spotsMany ih s.rest s
  | group i p ih =>
    intro t ht
    rw [spots, List.mem_map] at ht
    obtain ⟨m, hm, rfl⟩ := ht
    obtain ⟨w, k, hw, hmw, hr⟩ := ih s m hm
    have hoffset : m.offset = s.offset + w.length := by rw [hmw]; rfl
    have hstretch : (s.stretch m).text = w := by
      simp [Spot.stretch, Stretch.text, hoffset, hw]
    refine ⟨w, (i, s.stretch m) :: k, hw, ?_, ?_⟩
    · rw [Spot.keep, hmw]
      rfl
    · show Reads _ _ _ _ ((i, (s.stretch m).text) :: texts k)
      rw [hstretch]
      exact .group hr
  | ahead f p ih =>
    intro t ht
    unfold spots at ht
    split at ht
    · rename_i hf
      obtain ⟨w, k, hw, htw, hr⟩ := ih s t ht
      exact ⟨w, k, hw, htw, .ahead (hw ▸ hf) hr⟩
    · cases ht

/-- The place behind a reading is listed, with the stretches that it keeps. -/
def Listed (spots : Spot → List Spot) (b : Option Char) (w a : List Char)
    (k : List (Nat × List Char)) : Prop :=
  ∀ o g, ∃ kept, texts kept = k ∧
    past ⟨o, b, w ++ a, g⟩ w a kept ∈ spots ⟨o, b, w ++ a, g⟩

/-- Of two readings in a row the second is listed from a place that is listed for the first. -/
theorem Listed.row {first second : Spot → List Spot} {b : Option Char} {u v a : List Char}
    {ku kv : List (Nat × List Char)} (hu : Listed first b u (v ++ a) ku)
    (hv : Listed second (behind b u) v a kv) (o : Nat) (g : List (Nat × Stretch)) :
    ∃ kept, texts kept = kv ++ ku ∧ ∃ m ∈ first ⟨o, b, u ++ v ++ a, g⟩,
      m.offset = o + u.length ∧ past ⟨o, b, u ++ v ++ a, g⟩ (u ++ v) a kept ∈ second m := by
  obtain ⟨lu, hlu, hmu⟩ := hu o g
  obtain ⟨lv, hlv, hmv⟩ := hv (o + u.length) (lu ++ g)
  refine ⟨lv ++ lu, by rw [texts_append, hlu, hlv], ?_⟩
  refine ⟨_, by rw [List.append_assoc]; exact hmu, rfl, ?_⟩
  rw [← past_row]
  exact hmv

/-- A reading of a repetition is found whatever the bound on the row, if only the text fits under
it. -/
theorem listed_spotsMany {p : Pattern}
    (item : ∀ {b w a k}, p.Reads b w a k → Listed p.spots b w a k) (left : List Char)
    {b : Option Char} {w a : List Char} {k : List (Nat × List Char)} (h : (many p).Reads b w a k)
    (hleft : w.length ≤ left.length) : Listed (spotsMany p.spots left) b w a k := by
  -- each item of a row is longer than nothing, so the bound goes down with the text
  induction left generalizing b w k with
  | nil =>
    intro o g
    cases h with
    | done => exact ⟨[], rfl, List.mem_singleton.mpr rfl⟩
    | more hne =>
      have hpos := List.length_pos_iff.mpr hne
      rw [List.length_append, List.length_nil] at hleft
      omega
  | cons c left ih =>
    intro o g
    cases h with
    | done => exact ⟨[], rfl, List.mem_append_right _ (List.mem_singleton.mpr rfl)⟩
    | @more _ _ u v _ ku kv hne hread hrow =>
      have hpos : 0 < u.length := List.length_pos_iff.mpr hne
      have hlen : v.length ≤ left.length := by
        rw [List.length_append, List.length_cons] at hleft
        omega
      obtain ⟨kept, hkept, m, hm, hoffset, hmem⟩ := (item hread).row (ih hrow hlen) o g
      refine ⟨kept, hkept, List.mem_append_left _ (List.mem_flatMap.mpr ⟨m, ?_, hmem⟩)⟩
      refine List.mem_filter.mpr ⟨hm, decide_eq_true ?_⟩
      rw [hoffset]
      exact Nat.lt_add_of_pos_right hpos

/-- Every reading ends at a place that a match can end at. -/
theorem listed_of_reads {p : Pattern} {b : Option Char} {w a : List Char}
    {k : List (Nat × List Char)} (h : p.Reads b w a k) : Listed p.spots b w a k := by
  induction p generalizing b w a k with
  | never => cases h
  | empty =>
    cases h
    exact fun o g => ⟨[], rfl, List.mem_singleton.mpr rfl⟩
  | boundary =>
    cases h with
    | boundary hb =>
      intro o g
      refine ⟨[], rfl, ?_⟩
      simp only [List.nil_append, spots, hb, if_true, List.mem_singleton]
      rfl
  | char f =>
    cases h with
    | char hc =>
      intro o g
      refine ⟨[], rfl, ?_⟩
      simp only [List.cons_append, List.nil_append, spots, hc, if_true, List.mem_singleton]
      rfl
  | seq p q ihp ihq =>
    cases h with
    | seq hp hq =>
      intro o g
      obtain ⟨kept, hkept, m, hm, -, hmem⟩ := (ihp hp).row (ihq hq) o g
      exact ⟨kept, hkept, List.mem_flatMap.mpr ⟨m, hm, hmem⟩⟩
  | alt p q ihp ihq =>
    intro o g
    cases h with
    | left h =>
      obtain ⟨l, hl, hm⟩ := ihp h o g
      exact ⟨l, hl, List.mem_append_left _ hm⟩
    | right h =>
      obtain ⟨l, hl, hm⟩ := ihq h o g
      exact ⟨l, hl, List.mem_append_right _ hm⟩
  | many p ih =>
    intro o g
    exact listed_spotsMany (fun h => ih h) (w ++ a) h (by simp) o g
  | group i p ih =>
    cases h with
    | group h =>
      intro o g
      obtain ⟨l, hl, hm⟩ := ih h o g
      refine ⟨(i, ⟨w ++ a, w.length⟩) :: l, ?_, ?_⟩
      · show (i, Stretch.text ⟨w ++ a, w.length⟩) :: texts l = _
        rw [hl]
        simp [Stretch.text]
      · refine List.mem_map.mpr ⟨_, hm, ?_⟩
        simp [Spot.keep, Spot.stretch, past]
  | ahead f p ih =>
    cases h with
    | ahead hf h =>
      intro o g
      obtain ⟨l, hl, hm⟩ := ih h o g
      refine ⟨l, hl, ?_⟩
      simp only [spots, hf, if_true]
      exact hm

/-- No match starts at a place exactly when only the empty text is read there. -/
theorem matchAt?_eq_none_iff {p : Pattern} {b : Option Char} {rest : List Char} :
    p.matchAt? b rest = none ↔ ∀ w a k, rest = w ++ a → p.Reads b w a k → w = [] := by
  rw [matchAt?, run_eq, Option.map_eq_none_iff, List.findSome?_eq_none_iff]
  constructor
  · rintro h w a k rfl hr
    obtain ⟨kept, -, hm⟩ := listed_of_reads hr 0 []
    have := h _ hm
    simpa [past] using this
  · intro h t ht
    obtain ⟨w, kept, hw, htw, hr⟩ := ends_of_mem_spots p _ t ht
    have hnil := h w t.rest _ hw hr
    have hoffset : t.offset = 0 := by rw [htw, hnil]; rfl
    simp [hoffset]

/-- A match is a reading of the text at its place. -/
theorem reads_of_matchAt? {p : Pattern} {b : Option Char} {rest : List Char} {m : Match}
    (h : p.matchAt? b rest = some m) :
    m.text ≠ [] ∧ ∃ a, rest = m.text ++ a ∧ p.Reads b m.text a m.groups := by
  rw [matchAt?, run_eq, Option.map_eq_some_iff] at h
  obtain ⟨t, ht, rfl⟩ := h
  obtain ⟨u, hu, hut⟩ := List.exists_of_findSome?_eq_some ht
  split at hut
  · rename_i hpos
    obtain rfl := Option.some.inj hut
    obtain ⟨w, kept, hw, htw, hr⟩ := ends_of_mem_spots p _ u hu
    have hoffset : u.offset = w.length := by rw [htw]; simp [past]
    have htake : rest.take u.offset = w := by
      have hw : rest = w ++ u.rest := hw
      rw [hoffset, hw, List.take_left]
    have hgroups : u.groups.map (fun g => (g.1, g.2.text)) = texts kept := by
      rw [htw]
      simp [past, texts]
    refine ⟨?_, u.rest, ?_, ?_⟩
    · show rest.take u.offset ≠ []
      rw [htake]
      intro he
      rw [hoffset, he] at hpos
      simp at hpos
    · show rest = rest.take u.offset ++ u.rest
      rw [htake]
      exact hw
    · show p.Reads b (rest.take u.offset) u.rest (u.groups.map fun g => (g.1, g.2.text))
      rw [htake, hgroups]
      exact hr
  · cases hut

/-- Of two patterns the second is looked at where the first reads nothing. -/
theorem matchAt?_alt (p q : Pattern) (b : Option Char) (rest : List Char) :
    (alt p q).matchAt? b rest = (p.matchAt? b rest).or (q.matchAt? b rest) := by
  simp only [matchAt?, run_eq, spots, List.findSome?_append, Option.map_or]

/-- From a place with no reading no match ends anywhere. -/
theorem spots_eq_nil {p : Pattern} {s : Spot}
    (h : ∀ w a k, s.rest = w ++ a → ¬ p.Reads s.before w a k) : p.spots s = [] := by
  rw [List.eq_nil_iff_forall_not_mem]
  intro t ht
  obtain ⟨w, kept, hw, -, hr⟩ := ends_of_mem_spots p s t ht
  exact h w t.rest _ hw hr

end Pattern

end CalcSpeech
