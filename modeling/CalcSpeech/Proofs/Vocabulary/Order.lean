import CalcSpeech.Vocabulary

/-!
# The order of entries

The entries of a vocabulary are kept in an order that has no ties: longer ones first, those of one
length by code point. Each entry is kept once and stands before all that it precedes
(`entries_pairwise`), so that there is only one way to keep a set of entries (`entries_eq_iff`).
Lists with the same entries (`Alike`) stay so when lists are put together and when phrases are
chosen by their entries.
-/

namespace CalcSpeech.Vocabulary

section Precedes

variable {a b c : List Char}

theorem precedes_iff :
    precedes a b = true ↔ b.length < a.length ∨ a.length = b.length ∧ a < b := by
  unfold precedes
  split
  · rename_i hlength
    simp [hlength]
  · rename_i hlength
    simp [hlength]

theorem precedes_trans (hab : precedes a b = true) (hbc : precedes b c = true) :
    precedes a c = true := by
  rw [precedes_iff] at *
  rcases hab with hab | ⟨hab, hlt⟩
  · rcases hbc with hbc | ⟨hbc, -⟩
    · exact Or.inl (by omega)
    · exact Or.inl (by omega)
  · rcases hbc with hbc | ⟨hbc, hlt'⟩
    · exact Or.inl (by omega)
    · exact Or.inr ⟨by omega, List.lt_trans hlt hlt'⟩

theorem precedes_asymm (hab : precedes a b = true) : ¬ precedes b a = true := by
  rw [precedes_iff] at *
  rintro (hba | ⟨hba, hlt'⟩)
  · rcases hab with hab | ⟨hab, -⟩ <;> omega
  · rcases hab with hab | ⟨-, hlt⟩
    · omega
    · exact List.lt_asymm hlt hlt'

/-- Of two entries one precedes the other. -/
theorem precedes_of_not (hne : a ≠ b) (hab : ¬ precedes a b = true) : precedes b a = true := by
  rw [precedes_iff] at *
  rw [not_or, not_and] at hab
  obtain ⟨hlength, hlt⟩ := hab
  by_cases hsame : a.length = b.length
  · refine Or.inr ⟨hsame.symm, Decidable.byContradiction fun hle => ?_⟩
    exact hne (List.le_antisymm hle (hlt hsame))
  · exact Or.inl (by omega)

end Precedes

/-- An entry is put behind all that precede it and before all that it precedes. -/
theorem pairwise_insert (new : List Char) {rest : List (List Char)}
    (h : rest.Pairwise fun e f => precedes e f = true) :
    (insert new rest).Pairwise fun e f => precedes e f = true := by
  induction rest with
  | nil => exact List.pairwise_singleton _ _
  | cons other rest ih =>
    obtain ⟨hother, hrest⟩ := List.pairwise_cons.mp h
    unfold insert
    split
    · exact h
    · rename_i hne
      split
      · rename_i hnew
        refine List.pairwise_cons.mpr ⟨List.forall_mem_cons.mpr ⟨hnew, ?_⟩, h⟩
        exact fun e he => precedes_trans hnew (hother e he)
      · rename_i hnew
        refine List.pairwise_cons.mpr ⟨?_, ih hrest⟩
        intro e he
        rcases mem_insert.mp he with rfl | he
        · exact precedes_of_not hne hnew
        · exact hother e he

/-- Every entry precedes those that are kept behind it. -/
theorem entries_pairwise (phrases : List String) :
    (entries phrases).Pairwise fun e f => precedes e f = true := by
  unfold entries
  induction (phrases.map entry).filter (!·.isEmpty) with
  | nil => exact List.Pairwise.nil
  | cons e es ih => exact pairwise_insert e ih

/-- Longer entries come before shorter ones. -/
theorem entries_sorted (phrases : List String) :
    (entries phrases).Pairwise fun e f => f.length ≤ e.length := by
  refine (entries_pairwise phrases).imp fun h => ?_
  rcases precedes_iff.mp h with hlonger | ⟨hsame, -⟩ <;> omega

/-! ## Lists with the same entries -/

/-- Two lists of phrases have the same entries, whatever their order, their repetitions, their case
and their spacing, and however many blank phrases there are. -/
def Alike (phrases others : List String) : Prop :=
  ∀ e, e ≠ [] → ((∃ p ∈ phrases, entry p = e) ↔ ∃ q ∈ others, entry q = e)

section Alike

variable {phrases others more more' : List String}

theorem Alike.refl (phrases : List String) : Alike phrases phrases := fun _ _ => Iff.rfl

theorem Alike.append (h : Alike phrases others) (h' : Alike more more') :
    Alike (phrases ++ more) (others ++ more') := by
  intro e hne
  simp only [List.mem_append, or_and_right, exists_or, h e hne, h' e hne]

theorem Alike.cons (phrase : String) (h : Alike phrases others) :
    Alike (phrase :: phrases) (phrase :: others) :=
  (Alike.refl [phrase]).append h

/-- A choice that goes by the entries of the phrases makes no difference between them. -/
theorem Alike.filter {f : String → Bool} (hf : ∀ p q, entry p = entry q → f p = f q)
    (h : Alike phrases others) : Alike (phrases.filter f) (others.filter f) := by
  intro e hne
  have hchosen {p q : String} (hp : entry p = e) (hq : entry q = e) : f p = f q :=
    hf p q (hp.trans hq.symm)
  constructor
  · rintro ⟨p, hp, he⟩
    obtain ⟨hp, hfp⟩ := List.mem_filter.mp hp
    obtain ⟨q, hq, hqe⟩ := (h e hne).mp ⟨p, hp, he⟩
    exact ⟨q, List.mem_filter.mpr ⟨hq, (hchosen hqe he).trans hfp⟩, hqe⟩
  · rintro ⟨q, hq, he⟩
    obtain ⟨hq, hfq⟩ := List.mem_filter.mp hq
    obtain ⟨p, hp, hpe⟩ := (h e hne).mpr ⟨q, hq, he⟩
    exact ⟨p, List.mem_filter.mpr ⟨hp, (hchosen hpe he).trans hfq⟩, hpe⟩

/-- The entries of a list are kept in one way. -/
theorem entries_eq_iff :
    entries phrases = entries others ↔ Alike phrases others := by
  have hmem {es fs : List String} (h : Alike es fs) (e : List Char) :
      e ∈ entries es ↔ e ∈ entries fs := by
    rw [mem_entries, mem_entries]
    exact and_congr_right (h e)
  have hnodup (phrases : List String) : (entries phrases).Nodup := by
    refine (entries_pairwise phrases).imp fun h => ?_
    rintro rfl
    exact precedes_asymm h h
  constructor
  · intro h e hne
    have hsame : e ∈ entries phrases ↔ e ∈ entries others := by rw [h]
    rw [mem_entries, mem_entries] at hsame
    simpa [hne] using hsame
  · intro h
    have hperm := (List.perm_ext_iff_of_nodup (hnodup phrases) (hnodup others)).mpr (hmem h)
    exact hperm.eq_of_pairwise (fun _ _ _ _ hab hba => absurd hba (precedes_asymm hab))
      (entries_pairwise phrases) (entries_pairwise others)

theorem Alike.pattern?_eq (h : Alike phrases others) :
    pattern? phrases = pattern? others := by
  unfold pattern?
  rw [entries_eq_iff.mpr h]

theorem Alike.pattern_eq (h : Alike phrases others) :
    pattern phrases = pattern others := by
  unfold pattern
  rw [h.pattern?_eq]

end Alike

end CalcSpeech.Vocabulary
