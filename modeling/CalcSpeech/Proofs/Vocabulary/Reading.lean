import CalcSpeech.Proofs.Pattern.Shapes
import CalcSpeech.Vocabulary

/-!
# What a vocabulary finds

A vocabulary reads the texts that spell one of its entries (`Spells`) and that do not begin or end
inside a word (`Fits`). The tests of where an entry can begin change nothing.
-/

namespace CalcSpeech

open Unicode Pattern

namespace Pattern

/-- A text that is read in one way only is what is preferred. -/
theorem first_of_reads {p : Pattern} {s : Spot} {w a : List Char} (hs : s.rest = w ++ a)
    (h : p.Reads s.before w a [])
    (only : ∀ w' a' k, w ++ a = w' ++ a' → p.Reads s.before w' a' k → w' = w ∧ k = []) :
    p.First s (past s w a []) := by
  obtain ⟨o, b, rest, g⟩ := s
  obtain rfl : rest = w ++ a := hs
  apply first_of_forall
  · intro hnil
    obtain ⟨kept, -, hm⟩ := listed_of_reads h o g
    rw [hnil] at hm
    exact List.not_mem_nil hm
  · intro t ht
    obtain ⟨w', kept, hw, htw, hr⟩ := ends_of_mem_spots p _ t ht
    obtain ⟨rfl, hk⟩ := only w' t.rest _ hw hr
    have hkept : kept = [] := List.map_eq_nil_iff.mp hk
    rw [htw, hkept, List.append_cancel_left hw]

end Pattern

namespace Vocabulary

/-- Where a side of an entry is a letter or digit, a word begins or ends. -/
def Edged (side before after : Option Char) : Prop :=
  side.any isAlphanumeric = true → isWordBoundary before after = true

theorem reads_edge {side b : Option Char} {w a : List Char} {k : List (Nat × List Char)} :
    (edge side).Reads b w a k ↔ w = [] ∧ k = [] ∧ Edged side b a.head? := by
  unfold edge Edged
  split
  · rename_i h
    constructor
    · intro hr
      cases hr with
      | boundary hb => exact ⟨rfl, rfl, fun _ => hb⟩
    · rintro ⟨rfl, rfl, hb⟩
      exact .boundary (hb h)
  · rename_i h
    rw [reads_empty]
    constructor
    · rintro ⟨rfl, rfl⟩
      exact ⟨rfl, rfl, fun hs => absurd hs h⟩
    · rintro ⟨rfl, rfl, -⟩
      exact ⟨rfl, rfl⟩

/-- A text spells an entry: it is the entry with a gap for each space. -/
inductive Spells : List Char → List Char → Prop
  | nil : Spells [] []
  | gap {g e w} : g ≠ [] → (∀ c ∈ g, isBlank c = true) → Spells e w → Spells (' ' :: e) (g ++ w)
  | own {c e w} : c ≠ ' ' → Spells e w → Spells (c :: e) (c :: w)

/-- The pattern for one character of an entry. -/
theorem reads_own {c : Char} {b : Option Char} {w a : List Char} {k : List (Nat × List Char)} :
    (if c = ' ' then Pattern.gap else just c).Reads b w a k ↔
      k = [] ∧ if c = ' ' then w ≠ [] ∧ ∀ d ∈ w, isBlank d = true else w = [c] := by
  split
  · rw [reads_gap, ← and_assoc, and_comm]
  · rw [reads_just, and_comm]

/-- The characters of an entry in a row, with `last` behind them. -/
theorem reads_own_row {e : List Char} {last : Pattern} {b : Option Char} {w a : List Char}
    {k : List (Nat × List Char)} :
    (inOrder (e.map (fun c => if c = ' ' then Pattern.gap else just c) ++ [last])).Reads b w a k ↔
      ∃ u v, w = u ++ v ∧ Spells e u ∧ last.Reads (behind b u) v a k := by
  -- a row is read from the front: the first character of the entry, then the row of the others
  induction e generalizing b w k with
  | nil =>
    show last.Reads b w a k ↔ _
    constructor
    · intro h
      exact ⟨[], w, rfl, .nil, h⟩
    · rintro ⟨u, v, rfl, hu, hv⟩
      cases hu
      exact hv
  | cons c e ih =>
    rw [List.map_cons, List.cons_append, reads_inOrder_cons]
    constructor
    · rintro ⟨u, v, ku, kv, rfl, rfl, hu, hv⟩
      obtain ⟨rfl, hc⟩ := reads_own.mp hu
      obtain ⟨x, y, rfl, hx, hy⟩ := ih.mp hv
      rw [List.append_nil]
      refine ⟨u ++ x, y, by rw [List.append_assoc], ?_, by rwa [behind_append]⟩
      by_cases hspace : c = ' '
      · rw [if_pos hspace] at hc
        rw [hspace]
        exact .gap hc.1 hc.2 hx
      · rw [if_neg hspace] at hc
        rw [hc]
        exact .own hspace hx
    · rintro ⟨u, v, rfl, hu, hv⟩
      cases hu with
      | @gap g _ x hne hall hx =>
        refine ⟨g, x ++ v, [], k, by rw [List.append_assoc], by simp, ?_, ?_⟩
        · exact reads_own.mpr ⟨rfl, by rw [if_pos rfl]; exact ⟨hne, hall⟩⟩
        · exact ih.mpr ⟨x, v, rfl, hx, by rwa [behind_append] at hv⟩
      | @own _ _ x hne hx =>
        refine ⟨[c], x ++ v, [], k, rfl, by simp, ?_, ?_⟩
        · exact reads_own.mpr ⟨rfl, by rw [if_neg hne]⟩
        · exact ih.mpr ⟨x, v, rfl, hx, hv⟩

/-- The text `w` is an entry at its place: it spells the entry and no word goes on beyond it. -/
structure Fits (e : List Char) (b : Option Char) (w a : List Char) : Prop where
  spells : Spells e w
  opens : Edged e.head? b (w ++ a).head?
  closes : Edged e.getLast? (behind b w) a.head?

/-- An entry reads the texts that fit it. -/
theorem reads_entryPattern {e : List Char} {b : Option Char} {w a : List Char}
    {k : List (Nat × List Char)} :
    (entryPattern e).Reads b w a k ↔ k = [] ∧ Fits e b w a := by
  unfold entryPattern
  rw [List.append_assoc, List.singleton_append, reads_inOrder_cons]
  constructor
  · rintro ⟨u, v, ku, kv, rfl, rfl, hu, hv⟩
    obtain ⟨rfl, rfl, hopens⟩ := reads_edge.mp hu
    obtain ⟨x, y, rfl, hx, hy⟩ := reads_own_row.mp hv
    obtain ⟨rfl, rfl, hcloses⟩ := reads_edge.mp hy
    rw [List.append_nil] at hopens
    rw [List.nil_append, List.append_nil]
    exact ⟨rfl, hx, hopens, hcloses⟩
  · rintro ⟨rfl, hspells, hopens, hcloses⟩
    refine ⟨[], w, [], [], rfl, rfl, reads_edge.mpr ⟨rfl, rfl, hopens⟩, ?_⟩
    exact reads_own_row.mpr ⟨w, [], by simp, hspells, reads_edge.mpr ⟨rfl, rfl, hcloses⟩⟩

/-- A text that spells an entry begins as the entry does. -/
theorem Spells.head {own : Char} {e w : List Char} (h : Spells (own :: e) w) :
    ∃ c v, w = c :: v ∧ standsFor c own = true := by
  unfold standsFor
  cases h with
  | @gap g _ _ hne hall hw =>
    obtain ⟨c, g, rfl⟩ := List.exists_cons_of_ne_nil hne
    exact ⟨c, g ++ _, rfl, by rw [if_pos rfl]; exact hall c (by simp)⟩
  | own hne hw => exact ⟨own, _, rfl, by rw [if_neg hne]; exact beq_self_eq_true own⟩

/-- A text that spells an entry ends as the entry does, unless it ends in a gap. -/
theorem Spells.last {e w : List Char} (h : Spells e w) {c : Char} (hc : w.getLast? = some c)
    (hsolid : isBlank c = false) : e.getLast? = some c := by
  have hnil {e : List Char} (h : Spells e []) : e = [] := by
    generalize hw : ([] : List Char) = w at h
    cases h with
    | nil => rfl
    | gap hne => exact absurd (List.append_eq_nil_iff.mp hw.symm).1 hne
    | own => cases hw
  induction h with
  | nil => exact hc
  | @gap g e w hne hblank hw ih =>
    by_cases hrest : w = []
    · rw [hrest, List.append_nil] at hc
      rw [hblank c (List.mem_of_getLast? hc)] at hsolid
      exact absurd hsolid Bool.noConfusion
    · rw [List.getLast?_append_of_ne_nil _ hrest] at hc
      simp [List.getLast?_cons, ih hc]
  | @own d e w _ hw ih =>
    cases w with
    | nil =>
      rw [hnil hw]
      exact hc
    | cons f w =>
      rw [List.getLast?_cons_cons] at hc
      simp [List.getLast?_cons, ih hc]

/-- A vocabulary reads the texts that fit one of its entries. -/
theorem reads_anyOf {es : List (List Char)} (hes : [] ∉ es) {b : Option Char} {w a : List Char}
    {k : List (Nat × List Char)} :
    (anyOf es).Reads b w a k ↔ k = [] ∧ ∃ e ∈ es, Fits e b w a := by
  have hoption : (oneOf (es.map entryPattern)).Reads b w a k ↔
      k = [] ∧ ∃ e ∈ es, Fits e b w a := by
    rw [reads_oneOf]
    constructor
    · rintro ⟨p, hp, hread⟩
      obtain ⟨e, he, rfl⟩ := List.mem_map.mp hp
      obtain ⟨hk, hfits⟩ := reads_entryPattern.mp hread
      exact ⟨hk, e, he, hfits⟩
    · rintro ⟨hk, e, he, hfits⟩
      exact ⟨entryPattern e, List.mem_map_of_mem he, reads_entryPattern.mpr ⟨hk, hfits⟩⟩
  rw [← hoption]
  constructor
  · intro h
    cases h with
    | ahead _ h => exact h
  · intro h
    refine .ahead ?_ h
    obtain ⟨-, e, he, hfits⟩ := hoption.mp h
    cases e with
    | nil => exact absurd he hes
    | cons own e =>
      obtain ⟨c, v, rfl, hc⟩ := hfits.spells.head
      have hown : own ∈ (es.filterMap List.head?).eraseDups :=
        List.mem_eraseDups.mpr (List.mem_filterMap.mpr ⟨own :: e, he, rfl⟩)
      simpa using ⟨own, by simpa using hown, hc⟩

theorem nil_not_mem_entries (phrases : List String) : [] ∉ entries phrases := by
  intro h
  exact (mem_entries.mp h).1 rfl

/-- The text `w` is one of some phrases at its place. -/
def Finds (phrases : List String) (b : Option Char) (w a : List Char) : Prop :=
  ∃ e ∈ entries phrases, Fits e b w a

/-- The pattern for some phrases reads what is one of them. -/
theorem reads_pattern {phrases : List String} {b : Option Char} {w a : List Char}
    {k : List (Nat × List Char)} :
    (pattern phrases).Reads b w a k ↔ k = [] ∧ Finds phrases b w a := by
  have hnil := nil_not_mem_entries phrases
  unfold pattern pattern? Finds
  cases h : entries phrases with
  | nil =>
    constructor
    · intro hr
      cases hr
    · rintro ⟨-, e, he, -⟩
      cases he
  | cons e es =>
    rw [h] at hnil
    exact reads_anyOf hnil

/-- A pattern for some phrases is the pattern for them. -/
theorem eq_pattern_of_pattern? {phrases : List String} {p : Pattern}
    (h : pattern? phrases = some p) : p = pattern phrases := by
  rw [pattern, h]
  rfl

/-- A list with an entry has a pattern. -/
theorem pattern?_of_entry {phrases : List String} {e : List Char} (h : e ∈ entries phrases) :
    pattern? phrases = some (pattern phrases) := by
  unfold pattern pattern?
  cases hentries : entries phrases with
  | nil =>
    rw [hentries] at h
    cases h
  | cons => rfl

end Vocabulary

end CalcSpeech
