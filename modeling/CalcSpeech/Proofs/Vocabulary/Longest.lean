import CalcSpeech.Proofs.Vocabulary.Kept

/-!
# The longest entry is found

Of two entries that stand at one place the one with more characters reads more of the text, however
wide the gaps of the text are (`Occurs.compare`). Entries are tried in the order of their lengths, so
what a search finds first is the longest entry at the first place where any entry stands
(`first_match_longest`).
-/

namespace CalcSpeech

open Unicode Text Pattern

namespace Pattern

/-- A search goes on character by character up to the first match, if there is one. -/
theorem piecesAfter_cases (p : Pattern) (before : Option Char) (text : List Char) :
    (p.Quiet before text [] ∧ p.piecesAfter before 0 text = text.map .plain) ∨
      ∃ front m after rest, text = front ++ (m.text ++ after) ∧
        p.Quiet before front (m.text ++ after) ∧
        p.matchAt? (behind before front) (m.text ++ after) = some m ∧
        p.piecesAfter before 0 text = front.map .plain ++ .found m :: rest := by
  induction before, text using p.search_induction with
  | nil before => exact Or.inl ⟨quiet_nil p before [], rfl⟩
  | plain before c rest hc ih =>
    rw [piecesAfter_plain hc]
    rcases ih with ⟨hquiet, hpieces⟩ | ⟨front, m, after, rest', rfl, hquiet, hm, hpieces⟩
    · refine Or.inl ⟨quiet_cons.mpr ⟨?_, hquiet⟩, by rw [hpieces, List.map_cons]⟩
      rwa [List.append_nil]
    · exact Or.inr ⟨c :: front, m, after, rest', rfl, quiet_cons.mpr ⟨hc, hquiet⟩, hm,
        by rw [hpieces, List.map_cons, List.cons_append]⟩
  | found before m after hm =>
    exact Or.inr ⟨[], m, after, _, rfl, quiet_nil p before _, hm, piecesAfter_found hm⟩

end Pattern

namespace Vocabulary

/-- An entry of some phrases, the kept form of one that is not blank, is the text `w` at its place. -/
structure Occurs (phrases : List String) (e : List Char) (b : Option Char) (w a : List Char) :
    Prop where
  ne_nil : e ≠ []
  listed : ∃ phrase ∈ phrases, entry phrase = e
  fits : Fits e b w a

/-- Some entry stands here. -/
def OccursAt (phrases : List String) (before : Option Char) (rest : List Char) : Prop :=
  ∃ e w a, rest = w ++ a ∧ Occurs phrases e before w a

section Occurs

variable {phrases : List String} {e f w a w' a' rest : List Char} {b : Option Char}

theorem occurs_iff : Occurs phrases e b w a ↔ e ∈ entries phrases ∧ Fits e b w a := by
  rw [mem_entries]
  constructor
  · intro h
    exact ⟨⟨h.ne_nil, h.listed⟩, h.fits⟩
  · intro ⟨⟨hne, hlisted⟩, hfits⟩
    exact ⟨hne, hlisted, hfits⟩

theorem Occurs.mem (h : Occurs phrases e b w a) : e ∈ entries phrases := (occurs_iff.mp h).1

theorem Occurs.tidy (h : Occurs phrases e b w a) : isTidyAfter false e = true := tidy_of_mem h.mem

theorem Occurs.text_ne_nil (h : Occurs phrases e b w a) : w ≠ [] :=
  ne_nil_of_spells h.fits.spells h.tidy

/-- A search finds nothing where no entry stands. -/
theorem matchAt?_eq_none_iff_occursAt :
    (pattern phrases).matchAt? b rest = none ↔ ¬ OccursAt phrases b rest := by
  rw [matchAt?_eq_none_iff]
  constructor
  · rintro h ⟨e, w, a, hrest, hoccurs⟩
    exact hoccurs.text_ne_nil
      (h w a [] hrest (reads_pattern.mpr ⟨rfl, e, hoccurs.mem, hoccurs.fits⟩))
  · intro h w a k hrest hr
    obtain ⟨-, e, he, hfits⟩ := reads_pattern.mp hr
    exact absurd ⟨e, w, a, hrest, occurs_iff.mpr ⟨he, hfits⟩⟩ h

/-- A text is only one entry. -/
theorem Occurs.unique (he : Occurs phrases e b w a) (hf : Occurs phrases f b w a') : f = e :=
  (collapse_of_spells hf.fits.spells hf.tidy).symm.trans (collapse_of_spells he.fits.spells he.tidy)

/-- An entry that reads more of the text than another one has more characters. -/
theorem Occurs.length_lt {v : List Char} (he : Occurs phrases e b w a)
    (hf : Occurs phrases f b (w ++ v) a') (hv : v ≠ []) : e.length < f.length := by
  obtain ⟨z, rfl, hz⟩ := spells_prefix he.fits.spells hf.fits.spells he.tidy hf.tidy
  have hmore : z ≠ [] := by
    rintro rfl
    cases hz
    exact hv rfl
  have hlength := List.length_pos_iff.mpr hmore
  rw [List.length_append]
  omega

/-- Of two entries at one place the one with more characters reads more of the text, and no two have
equally many. -/
theorem Occurs.compare (he : Occurs phrases e b w a) (hf : Occurs phrases f b w' a')
    (htext : w ++ a = w' ++ a') :
    f = e ∧ w' = w ∨ f.length < e.length ∧ w'.length < w.length ∨
      e.length < f.length ∧ w.length < w'.length := by
  have hread {x y : List Char} (hy : y ≠ []) : x.length < (x ++ y).length := by
    have := List.length_pos_iff.mpr hy
    rw [List.length_append]
    omega
  -- both are read from the front of one text, so one of them is the front of the other
  rcases List.append_eq_append_iff.mp htext with ⟨v, rfl, -⟩ | ⟨v, rfl, -⟩
  · by_cases hv : v = []
    · rw [hv, List.append_nil] at hf ⊢
      exact Or.inl ⟨he.unique hf, rfl⟩
    · exact Or.inr (Or.inr ⟨he.length_lt hf hv, hread hv⟩)
  · by_cases hv : v = []
    · rw [hv, List.append_nil] at he ⊢
      exact Or.inl ⟨he.unique hf, rfl⟩
    · exact Or.inr (Or.inl ⟨hf.length_lt he hv, hread hv⟩)

/-- Where entries stand there is one with more characters than all others that stand there. -/
theorem OccursAt.exists_longest (h : OccursAt phrases b rest) :
    ∃ e w a, rest = w ++ a ∧ Occurs phrases e b w a ∧
      ∀ f w' a', rest = w' ++ a' → Occurs phrases f b w' a' →
        f = e ∧ w' = w ∨ f.length < e.length ∧ w'.length < w.length := by
  classical
  obtain ⟨e₀, w₀, a₀, hrest₀, h₀⟩ := h
  -- it is the first of the entries, in the order in which they are tried, that stands there
  have hfind : ((entries phrases).find? fun e =>
      decide (∃ w a, rest = w ++ a ∧ Occurs phrases e b w a)).isSome = true := by
    rw [List.find?_isSome]
    exact ⟨e₀, h₀.mem, decide_eq_true ⟨w₀, a₀, hrest₀, h₀⟩⟩
  obtain ⟨e, he⟩ := Option.isSome_iff_exists.mp hfind
  obtain ⟨hstands, longer, shorter, hsplit, hnone⟩ := List.find?_eq_some_iff_append.mp he
  obtain ⟨w, a, hrest, hoccurs⟩ := of_decide_eq_true hstands
  refine ⟨e, w, a, hrest, hoccurs, fun f w' a' hrest' hf => ?_⟩
  have hlength : f.length ≤ e.length := by
    have hsorted := entries_sorted phrases
    have hmem := hf.mem
    rw [hsplit] at hsorted hmem
    rcases List.mem_append.mp hmem with hlonger | hbehind
    · have hno := hnone f hlonger
      rw [decide_eq_true ⟨w', a', hrest', hf⟩] at hno
      exact absurd hno (by decide)
    · rcases List.mem_cons.mp hbehind with rfl | hshorter
      · exact Nat.le_refl _
      · exact (List.pairwise_cons.mp (List.pairwise_append.mp hsorted).2.1).1 f hshorter
  rcases hoccurs.compare hf (hrest.symm.trans hrest') with hsame | hless | hmore
  · exact Or.inl hsame
  · exact Or.inr hless
  · omega

/-- A match is the longest entry at its place. -/
theorem longest_of_matchAt? {m : Match} (h : (pattern phrases).matchAt? b (m.text ++ a) = some m) :
    ∃ e, Occurs phrases e b m.text a ∧
      ∀ f w a', m.text ++ a = w ++ a' → Occurs phrases f b w a' →
        f = e ∧ w = m.text ∨ f.length < e.length ∧ w.length < m.text.length := by
  have hsome : OccursAt phrases b (m.text ++ a) := by
    by_contra hno
    rw [matchAt?_eq_none_iff_occursAt.mpr hno] at h
    cases h
  obtain ⟨e, w, a', htext, hoccurs, hlongest⟩ := hsome.exists_longest
  have hprefers : (pattern phrases).Prefers b w a' [] := by
    apply prefers_of_first
    rintro s rfl hs
    refine first_longest hoccurs.mem hs hoccurs.fits fun f hf hlength w' a'' hw hfits => ?_
    rcases hlongest f w' a'' (htext.trans hw) (occurs_iff.mpr ⟨hf, hfits⟩) with hsame | hless
    · exact hsame
    · omega
  have hmatch := hprefers.matchAt?_eq hoccurs.text_ne_nil
  rw [← htext, h] at hmatch
  obtain rfl := Option.some.inj hmatch
  obtain rfl := List.append_cancel_left htext
  exact ⟨e, hoccurs, hlongest⟩

/-- A list of phrases has no pattern if none of them has an entry. Else the first match of its
pattern in a text is the longest entry at the first place where any entry stands: every other one
that stands there has fewer characters and reads less of the text. Where no entry stands anywhere
there is no match. -/
theorem first_match_longest (phrases : List String) (text : List Char) :
    match pattern? phrases with
    | none => ∀ phrase ∈ phrases, entry phrase = []
    | some p =>
      (p.pieces text = text.map .plain ∧ Nowhere (OccursAt phrases) none text []) ∨
        ∃ front m after rest e, text = front ++ (m.text ++ after) ∧
          p.pieces text = front.map .plain ++ .found m :: rest ∧
          Nowhere (OccursAt phrases) none front (m.text ++ after) ∧
          Occurs phrases e (behind none front) m.text after ∧
          ∀ f w a, m.text ++ after = w ++ a → Occurs phrases f (behind none front) w a →
            f = e ∧ w = m.text ∨ f.length < e.length ∧ w.length < m.text.length := by
  have hquiet {b : Option Char} {u a : List Char} (h : (pattern phrases).Quiet b u a) :
      Nowhere (OccursAt phrases) b u a :=
    h.mono fun b r hoccurs hnone => matchAt?_eq_none_iff_occursAt.mp hnone hoccurs
  cases hp : pattern? phrases with
  | none =>
    intro phrase hphrase
    by_contra hne
    rw [pattern?_of_entry (mem_entries.mpr ⟨hne, phrase, hphrase, rfl⟩)] at hp
    cases hp
  | some p =>
    obtain rfl := eq_pattern_of_pattern? hp
    rcases (pattern phrases).piecesAfter_cases none text with
      ⟨hnone, hpieces⟩ | ⟨front, m, after, rest, htext, hfront, hm, hpieces⟩
    · exact Or.inl ⟨hpieces, hquiet hnone⟩
    · obtain ⟨e, hoccurs, hlongest⟩ := longest_of_matchAt? hm
      exact Or.inr ⟨front, m, after, rest, e, htext, hpieces, hquiet hfront, hoccurs, hlongest⟩

/-- The gap of the longer entry may be any blanks, and it is passed over where it would end inside a
word. -/
example :
    ((pattern ["divided", " Divided  BY "]).matchesIn
        "subdivided, divided bytes, divided \t by two".toList).map (·.text) =
      ["divided".toList, "divided \t by".toList] := by
  decide

end Occurs

end Vocabulary

end CalcSpeech
