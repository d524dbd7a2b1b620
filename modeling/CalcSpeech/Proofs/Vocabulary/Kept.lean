import CalcSpeech.Proofs.Text.Lowercase
import CalcSpeech.Proofs.Vocabulary.Found

/-!
# The form in which entries are kept

The kept form of any phrase is tidy (`isTidy_entry`), so a text that spells it has no blanks at its
ends, and a text that goes on behind an entry does so in the spelling of every longer one
(`spells_prefix`). Between the blanks at its ends a text spells what
it collapses to (`exists_spells_collapse`).
-/

namespace CalcSpeech.Vocabulary

open Unicode Text Pattern

/-- The form in which a phrase is kept has single spaces between its words and no other blanks. -/
theorem isTidy_entry (phrase : String) : isTidy (entry phrase) = true := by
  rw [entry, lowercase_collapse]
  exact isTidy_collapse _

/-- A phrase that is not blank has an entry. -/
theorem entry_mem {phrases : List String} {phrase : String} (h : phrase ∈ phrases)
    (hblank : isAllBlank phrase.toList = false) : entry phrase ∈ entries phrases := by
  refine mem_entries.mpr ⟨?_, phrase, h, rfl⟩
  have hhead := head_of_tidy (isTidy_collapse phrase.toList)
  unfold entry
  cases hcollapse : collapse phrase.toList with
  | nil =>
    have hnone := filter_collapse phrase.toList
    rw [hcollapse] at hnone
    have hall := List.filter_eq_nil_iff.mp hnone.symm
    rw [isAllBlank, List.all_eq_false] at hblank
    obtain ⟨c, hc, hsolid⟩ := hblank
    exact absurd (by simpa using hsolid) (hall c hc)
  | cons c rest =>
    rw [hcollapse] at hhead
    exact lowercase_ne_nil hhead rest

/-- An entry goes on tidily in front of a word. -/
theorem tidy_of_mem {phrases : List String} {e : List Char} (h : e ∈ entries phrases) :
    isTidyAfter false e = true := by
  obtain ⟨hne, phrase, -, rfl⟩ := mem_entries.mp h
  have htidy := isTidy_entry phrase
  rw [isTidy, Bool.or_eq_true] at htidy
  exact htidy.resolve_left (by simpa using hne)

/-! ## The ends of a spelling -/

section Ends

variable {e w : List Char} (h : Spells e w) (htidy : isTidyAfter false e = true)

include h htidy

theorem exists_head_of_spells : ∃ c, e.head? = some c ∧ w.head? = some c ∧ isBlank c = false := by
  cases e with
  | nil => exact absurd htidy (by decide)
  | cons own e =>
    have hown : own ≠ ' ' ∧ isBlank own = false := by
      rw [isTidyAfter] at htidy
      split at htidy
      · exact absurd htidy Bool.false_ne_true
      · rename_i hspace
        rw [Bool.and_eq_true, Bool.not_eq_true'] at htidy
        exact ⟨hspace, htidy.1⟩
    obtain ⟨c, v, rfl, hc⟩ := h.head
    rw [standsFor, if_neg hown.1, beq_iff_eq] at hc
    exact ⟨own, rfl, by rw [hc]; rfl, hown.2⟩

theorem exists_last_of_spells :
    ∃ c, e.getLast? = some c ∧ w.getLast? = some c ∧ isBlank c = false := by
  have hsolid := last_of_tidy (show isTidy e = true by rw [isTidy, htidy, Bool.or_true])
  cases hlast : e.getLast? with
  | none =>
    rw [List.getLast?_eq_none_iff.mp hlast] at htidy
    exact absurd htidy (by decide)
  | some c =>
    rw [hlast, Option.any_some] at hsolid
    refine ⟨c, rfl, h.getLast? hlast ?_, hsolid⟩
    rintro rfl
    exact absurd hsolid (by decide)

theorem ne_nil_of_spells : w ≠ [] := by
  obtain ⟨c, -, hhead, -⟩ := exists_head_of_spells h htidy
  rintro rfl
  cases hhead

end Ends

/-- Two runs of blanks with something else behind them are one if their texts are. -/
theorem blanks_inj {g g' x x' : List Char} (hg : ∀ c ∈ g, isBlank c = true)
    (hg' : ∀ c ∈ g', isBlank c = true) (hx : x.head?.any isBlank = false)
    (hx' : x'.head?.any isBlank = false) (h : g ++ x = g' ++ x') : g = g' ∧ x = x' := by
  have hdrop := congrArg (List.dropWhile isBlank) h
  rw [List.dropWhile_append_of_pos hg, List.dropWhile_append_of_pos hg', dropWhile_of_head hx,
    dropWhile_of_head hx'] at hdrop
  rw [hdrop] at h
  exact ⟨List.append_cancel_right h, hdrop⟩

/-- What begins with the spelling of one tidy text spells another only if that one begins with the
first. -/
theorem spells_prefix {y u k v : List Char} {inWord inWord' : Bool} (hu : Spells y u)
    (hw : Spells k (u ++ v)) (hy : isTidyAfter inWord y = true)
    (hk : isTidyAfter inWord' k = true) : ∃ z, k = y ++ z ∧ Spells z v := by
  -- along the first spelling: its gaps are gaps of the second, its other characters are its own
  induction hu generalizing k inWord inWord' with
  | nil => exact ⟨k, rfl, hw⟩
  | @gap g e w hne hblank hu ih =>
    rw [isTidyAfter, if_pos rfl, Bool.and_eq_true] at hy
    obtain ⟨c, g, rfl⟩ := List.exists_cons_of_ne_nil hne
    obtain ⟨d, -, hd, hsolid⟩ := exists_head_of_spells hu hy.2
    rw [List.append_assoc] at hw
    cases k with
    | nil => cases hw
    | cons f k =>
      rw [isTidyAfter] at hk
      generalize htext : c :: g ++ (w ++ v) = text at hw
      cases hw with
      | @gap g' _ w' hne' hblank' hw' =>
        rw [if_pos rfl, Bool.and_eq_true] at hk
        obtain ⟨d', -, hd', hsolid'⟩ := exists_head_of_spells hw' hk.2
        obtain ⟨-, hrest⟩ := blanks_inj hblank hblank' (by simp [hd, hsolid])
          (by simp [hd', hsolid']) htext
        rw [← hrest] at hw'
        obtain ⟨z, rfl, hz⟩ := ih hw' hy.2 hk.2
        exact ⟨z, rfl, hz⟩
      | own hspace hw' =>
        obtain ⟨rfl, -⟩ := List.cons.inj htext
        rw [if_neg hspace, hblank c List.mem_cons_self] at hk
        exact absurd hk Bool.false_ne_true
  | @own c e w hc hu ih =>
    rw [isTidyAfter, if_neg hc, Bool.and_eq_true, Bool.not_eq_true'] at hy
    cases k with
    | nil => cases hw
    | cons f k =>
      rw [isTidyAfter] at hk
      generalize htext : c :: w ++ v = text at hw
      cases hw with
      | @gap g' _ w' hne' hblank' hw' =>
        obtain ⟨f, g', rfl⟩ := List.exists_cons_of_ne_nil hne'
        obtain ⟨rfl, -⟩ := List.cons.inj htext
        rw [hblank' c List.mem_cons_self] at hy
        exact absurd hy.1 Bool.noConfusion
      | own hspace hw' =>
        obtain ⟨rfl, hrest⟩ := List.cons.inj htext
        rw [if_neg hspace, Bool.and_eq_true] at hk
        rw [← hrest] at hw'
        obtain ⟨z, rfl, hz⟩ := ih hw' hy.2 hk.2
        exact ⟨z, rfl, hz⟩

/-- A text is blanks around what spells its collapsed form. -/
theorem exists_spells_collapse (text : List Char) :
    ∃ lead w trail, text = lead ++ w ++ trail ∧ (∀ c ∈ lead, isBlank c = true) ∧
      (∀ c ∈ trail, isBlank c = true) ∧ Spells (collapse text) w := by
  induction text using blank_induction with
  | solid w hw =>
    refine ⟨[], w, [], by simp, by simp, by simp, ?_⟩
    by_cases hne : w = []
    · rw [hne]
      exact .nil
    · rw [collapse, words_of_solid hne hw]
      exact spells_self w
  | blank u c rest hu hc ih =>
    obtain ⟨lead, w, trail, hrest, hlead, htrail, hw⟩ := ih
    have hlead' : ∀ d ∈ c :: lead, isBlank d = true := List.forall_mem_cons.mpr ⟨hc, hlead⟩
    by_cases hne : u = []
    · refine ⟨c :: lead, w, trail, by simp [hne, hrest], hlead', htrail, ?_⟩
      rw [hne, collapse, words_append_blank _ hc]
      exact hw
    · rw [collapse, words_append_blank u hc, words_of_solid hne hu]
      by_cases hnone : words rest = []
      · -- nothing but blanks is left
        rw [collapse, hnone] at hw
        cases hw
        refine ⟨[], u, c :: lead ++ trail, by simp [hrest], by simp,
          List.forall_mem_append.mpr ⟨hlead', htrail⟩, ?_⟩
        rw [hnone]
        exact spells_self u
      · refine ⟨[], u ++ (c :: lead ++ w), trail, by simp [hrest], by simp, htrail, ?_⟩
        rw [join_append (List.cons_ne_nil u []) hnone]
        exact spells_append.mpr ⟨u, c :: lead ++ w, rfl, spells_self u,
          .gap (List.cons_ne_nil c lead) hlead' hw⟩

/-- What spells a tidy text collapses to it. -/
theorem collapse_of_spells {e w : List Char} (h : Spells e w) (htidy : isTidyAfter false e = true) :
    collapse w = e := by
  obtain ⟨c, -, hhead, hc⟩ := exists_head_of_spells h htidy
  obtain ⟨d, -, hlast, hd⟩ := exists_last_of_spells h htidy
  have hkept : isTidyAfter false (collapse w) = true := by
    have htidy := isTidy_collapse w
    rw [isTidy, Bool.or_eq_true] at htidy
    refine htidy.resolve_left fun hempty => ?_
    have hfilter := filter_collapse w
    rw [List.isEmpty_iff.mp hempty] at hfilter
    have hblank := List.filter_eq_nil_iff.mp hfilter.symm c (List.mem_of_head? hhead)
    rw [hc] at hblank
    exact hblank rfl
  -- neither what spells `e` nor what spells the collapsed form has blanks at its ends
  obtain ⟨lead, v, trail, hw, hlead, htrail, hspells⟩ := exists_spells_collapse w
  obtain ⟨c', -, hhead', hc'⟩ := exists_head_of_spells hspells hkept
  obtain ⟨d', -, hlast', hd'⟩ := exists_last_of_spells hspells hkept
  have hwhole := trim_append hlead htrail (by rwa [hhead']) (by rwa [hlast'])
  rw [← hw, trim_of_ends (by rwa [hhead]) (by rwa [hlast])] at hwhole
  rw [← hwhole] at hspells
  have hsame : Spells (collapse w) (w ++ []) := by rwa [List.append_nil]
  obtain ⟨z, hz, hnil⟩ := spells_prefix h hsame htidy hkept
  obtain rfl : z = [] := List.length_eq_zero_iff.mp (Nat.le_zero.mp hnil.length_le)
  rwa [List.append_nil] at hz

end CalcSpeech.Vocabulary
