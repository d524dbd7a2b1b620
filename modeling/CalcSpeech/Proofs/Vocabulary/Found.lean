import CalcSpeech.Proofs.Text.Around
import CalcSpeech.Proofs.Vocabulary.Order
import CalcSpeech.Proofs.Vocabulary.Spoken

/-!
# Where phrases are found, and which one is found first

Every word of a phrase that is read stands in the text (`wordAt_of_fits`), so in a row of tokens
that lacks one word of each phrase of a vocabulary nothing is found (`nowhere_found`). Longer
entries are tried first (`entries_sorted`), so at its place a phrase is what a vocabulary prefers
as soon as no longer entry fits there (`prefers_longest`).
-/

namespace CalcSpeech.Vocabulary

open Unicode Text Pattern

/-! ## The words of a phrase or sign -/

theorem words_sign {c : Char} (hc : c ∈ signs) : words [c] = [[c]] := by
  have hall : ∀ c ∈ signs, words [c] = [[c]] := by decide
  exact hall c hc

/-- A phrase is its words with spaces between. -/
theorem IsProper.join_words {e : List Char} (h : IsProper e) :
    words e ≠ [] ∧ join [' '] (words e) = e := by
  rcases h with hspoken | ⟨c, hc, rfl⟩
  · exact ⟨hspoken.1, hspoken.2.1⟩
  · rw [words_sign hc]
    exact ⟨List.cons_ne_nil _ _, rfl⟩

theorem IsProper.mem_words {e t : List Char} (h : IsProper e) (ht : t ∈ words e) :
    (t ≠ [] ∧ ∀ c ∈ t, isSmallLatin c = true) ∨ ∃ c ∈ signs, t = [c] := by
  rcases h with hspoken | ⟨c, hc, rfl⟩
  · exact Or.inl (hspoken.2.2 t ht)
  · rw [words_sign hc] at ht
    exact Or.inr ⟨c, hc, List.mem_singleton.mp ht⟩

/-! ## Every word of a phrase stands where the phrase is read -/

/-- A text that spells an entry ends as the entry does. -/
theorem Spells.getLast? {e w : List Char} (h : Spells e w) {c : Char} (hc : e.getLast? = some c)
    (hne : c ≠ ' ') : w.getLast? = some c := by
  induction h with
  | nil => exact hc
  | @gap g e w hg hblank hw ih =>
    cases e with
    | nil =>
      obtain rfl : ' ' = c := by simpa using hc
      exact absurd rfl hne
    | cons d e =>
      have hlast := ih (by simpa using hc)
      rw [List.getLast?_append, hlast]
      rfl
  | @own d e w hd hw ih =>
    cases e with
    | nil =>
      cases hw
      exact hc
    | cons f e =>
      have hlast := ih (by simpa using hc)
      rw [List.getLast?_cons, hlast]
      rfl

/-- No word goes on beyond a spoken phrase that is read. -/
theorem IsSpoken.ends {e w a : List Char} {b : Option Char} (he : IsSpoken e) (h : Fits e b w a) :
    a.head?.any isWordCharacter = false := by
  have hlast := he.last
  cases hc : e.getLast? with
  | none => simp [hc] at hlast
  | some c =>
    rw [hc, Option.any_some] at hlast
    have hletter := isLetter_of_isSmallLatin hlast
    have hw := h.spells.getLast? hc (ne_space_of_isSmallLatin hlast)
    have hne : w ≠ [] := by
      intro hnil
      rw [hnil] at hw
      cases hw
    have hbehind : behind b w = some c := by
      rw [behind_of_ne_nil b hne, ← List.getLast?_eq_some_getLast hne, hw]
    have hboundary := h.closes (by rw [hc]; exact isAlphanumeric_of_isLetter hletter)
    rw [hbehind, isWordBoundary, Option.any_some, isWordCharacter_of_isLetter hletter] at hboundary
    simpa using hboundary

/-- Words joined by gaps stand one by one between the neighbours of the row. -/
theorem wordAt_of_spells {ws : List (List Char)}
    (hws : ∀ x ∈ ws, x ≠ [] ∧ ∀ c ∈ x, isSmallLatin c = true) {w a : List Char} {b : Option Char}
    (h : Spells (join [' '] ws) w) (hb : b.any isWordCharacter = false)
    (ha : a.head?.any isWordCharacter = false) {t : List Char} (ht : t ∈ ws) :
    ∃ x y, w = x ++ y ∧ y ≠ [] ∧ WordAt t (behind b x) (y ++ a) := by
  have hsolid {x : List Char} (hx : ∀ c ∈ x, isSmallLatin c = true) : ∀ c ∈ x, c ≠ ' ' :=
    fun c hc => ne_space_of_isSmallLatin (hx c hc)
  induction ws generalizing w b with
  | nil => cases ht
  | cons p ws ih =>
    obtain ⟨⟨hne, hp⟩, hrest⟩ := List.forall_mem_cons.mp hws
    cases ws with
    | nil =>
      obtain rfl := List.mem_singleton.mp ht
      obtain rfl : w = t := eq_of_spells_solid (hsolid hp) h
      exact ⟨[], w, rfl, hne, hb, a, rfl, ha⟩
    | cons q ws =>
      have h : Spells (p ++ [' '] ++ join [' '] (q :: ws)) w := h
      rw [List.append_assoc] at h
      obtain ⟨u, v, rfl, hu, hv⟩ := spells_append.mp h
      obtain rfl := eq_of_spells_solid (hsolid hp) hu
      cases hv with
      | @gap g _ v hg hblank hv =>
        obtain ⟨c, g', rfl⟩ := List.exists_cons_of_ne_nil hg
        have hbehind : (behind (behind b u) (c :: g')).any isWordCharacter = false :=
          any_behind_of_ne_nil _ hg fun d hd => isWordCharacter_of_isBlank (hblank d hd)
        rcases List.mem_cons.mp ht with rfl | ht
        · refine ⟨[], t ++ (c :: g' ++ v), rfl, by simp [hne], hb, c :: g' ++ v ++ a, by simp, ?_⟩
          exact isWordCharacter_of_isBlank (hblank c (by simp))
        · obtain ⟨x, y, rfl, hy, hat⟩ := ih hrest hv hbehind ht
          refine ⟨u ++ (c :: g' ++ x), y, by simp, hy, ?_⟩
          rwa [behind_append, behind_append]
      | own hspace => exact absurd rfl hspace

/-- Where a spoken phrase is read each of its words stands. -/
theorem wordAt_of_fits {e w a : List Char} {b : Option Char} (he : IsSpoken e) (h : Fits e b w a)
    {t : List Char} (ht : t ∈ words e) :
    ∃ x y, w = x ++ y ∧ y ≠ [] ∧ WordAt t (behind b x) (y ++ a) := by
  have hspells := h.spells
  rw [← he.2.1] at hspells
  exact wordAt_of_spells he.2.2 hspells (word_of_fits he h).1 (he.ends h) ht

/-- A rewriting by a vocabulary, or by none where it has no entries. -/
theorem rewrite?_pattern? (phrases : List String) (change : Match → List Char) (text : List Char) :
    rewrite? (pattern? phrases) change text = (pattern phrases).rewrite change text := by
  have hnever : Pattern.never.NeedsAt fun _ _ => False := by
    intro b w a k h
    cases h
  cases h : pattern? phrases with
  | some p => rw [eq_pattern_of_pattern? h]; rfl
  | none =>
    rw [pattern, h]
    exact (hnever.rewriteAfter change fun _ _ _ _ => id).symm

/-- The characters that a text has beyond those of the entry it spells are blanks. -/
theorem Spells.blank_or_mem {e w : List Char} (h : Spells e w) {c : Char} (hc : c ∈ w) :
    isBlank c = true ∨ c ∈ e := by
  induction h with
  | nil => cases hc
  | gap _ hblank _ ih =>
    rcases List.mem_append.mp hc with hc | hc
    · exact Or.inl (hblank c hc)
    · exact (ih hc).imp_right (List.mem_cons_of_mem _)
  | own _ _ ih =>
    rcases List.mem_cons.mp hc with rfl | hc
    · exact Or.inr List.mem_cons_self
    · exact (ih hc).imp_right (List.mem_cons_of_mem _)

theorem Spells.length_le {e w : List Char} (h : Spells e w) : e.length ≤ w.length := by
  induction h with
  | nil => exact Nat.le_refl 0
  | gap hne _ _ ih =>
    have := List.length_pos_iff.mpr hne
    rw [List.length_cons, List.length_append]
    omega
  | own _ _ ih => exact Nat.succ_le_succ ih

/-- A text that is no longer than the entry it spells, and has no blanks but spaces, is it. -/
theorem Spells.eq_of_length {e w : List Char} (h : Spells e w) (hlength : w.length ≤ e.length)
    (hspace : ∀ c ∈ w, isBlank c = true → c = ' ') : w = e := by
  induction h with
  | nil => rfl
  | @gap g e w hne hblank hw ih =>
    have hle := hw.length_le
    obtain ⟨c, g, rfl⟩ := List.exists_cons_of_ne_nil hne
    simp only [List.length_append, List.length_cons] at hlength
    obtain rfl : g = [] := List.length_eq_zero_iff.mp (by omega)
    obtain rfl := hspace c (by simp) (hblank c (by simp))
    rw [ih (by omega) fun d hd => hspace d (List.mem_append_right _ hd)]
    rfl
  | own _ _ ih =>
    rw [ih (Nat.le_of_succ_le_succ hlength) fun d hd => hspace d (List.mem_cons_of_mem _ hd)]

/-! ## Nothing found in a row of tokens -/

/-- One of the phrases is read here. -/
def FoundAt (phrases : List String) (before : Option Char) (rest : List Char) : Prop :=
  ∃ w a, rest = w ++ a ∧ Finds phrases before w a

theorem ne_nil_of_finds {phrases : List String} {b : Option Char} {w a : List Char}
    (h : Finds phrases b w a) : w ≠ [] := by
  obtain ⟨e, he, hfits⟩ := h
  obtain ⟨own, e, rfl⟩ := List.exists_cons_of_ne_nil (mem_entries.mp he).1
  obtain ⟨c, v, rfl, -⟩ := hfits.spells.head
  exact List.cons_ne_nil c v

theorem opensAt_found (phrases : List String) : (pattern phrases).OpensAt (FoundAt phrases) := by
  intro b w a k hr
  exact ⟨w, a, rfl, (reads_pattern.mp hr).2⟩

theorem needsAt_found (phrases : List String) : (pattern phrases).NeedsAt (FoundAt phrases) := by
  intro b w a k hr
  have hfinds := (reads_pattern.mp hr).2
  exact ⟨[], w, rfl, ne_nil_of_finds hfinds, w, a, rfl, hfinds⟩

theorem begins_of_foundAt {phrases : List String} (h : ∀ p ∈ phrases, IsProper p.toList)
    {b : Option Char} {rest : List Char} (hfound : FoundAt phrases b rest) :
    Begins phrases b rest := by
  obtain ⟨w, a, rfl, hfinds⟩ := hfound
  exact (begins_of_finds h hfinds).1

/-- In a row of tokens that lacks a word of each phrase, or the sign that it is, none is found. -/
theorem nowhere_found {phrases : List String} {tokens : List (List Char)}
    (htokens : ∀ t ∈ tokens, IsToken t)
    (h : ∀ p ∈ phrases, (IsSpoken p.toList ∧ ∃ t ∈ words p.toList, t ∉ tokens) ∨
      ∃ c ∈ signs, p.toList = [c] ∧ c ∉ join [' '] tokens) {b : Option Char} :
    Nowhere (FoundAt phrases) b (join [' '] tokens) [] := by
  have hproper : ∀ p ∈ phrases, IsProper p.toList := by
    intro p hp
    rcases h p hp with ⟨hspoken, -⟩ | ⟨c, hc, hsign, -⟩
    · exact Or.inl hspoken
    · exact Or.inr ⟨c, hc, hsign⟩
  intro v d r hrow hfound
  obtain ⟨w, a, hrest, e, he, hfits⟩ := hfound
  rw [List.append_nil] at hrest
  obtain ⟨p, hp, rfl⟩ := (mem_entries_of_proper hproper).mp he
  rcases h p hp with ⟨hspoken, t, ht, hlacks⟩ | ⟨c, hc, hsign, hlacks⟩
  · -- the word that the row lacks would stand in it
    obtain ⟨x, y, rfl, hy, hat⟩ := wordAt_of_fits hspoken hfits ht
    obtain ⟨f, y, rfl⟩ := List.exists_cons_of_ne_nil hy
    have hno := nowhere_join (b := b) (a := []) (hspoken.isWord_of_mem ht) htokens hlacks rfl
    refine hno (v ++ x) f (y ++ a) (by rw [hrow, hrest]; simp) ?_
    rwa [behind_append, List.append_nil]
  · rw [hsign] at hfits
    rw [(fits_sign hc).mp hfits] at hrest
    exact hlacks (by rw [hrow, hrest]; simp)

section Rows

variable {phrases : List String} (hspoken : ∀ p ∈ phrases, IsSpoken p.toList)
  {tokens : List (List Char)} (htokens : ∀ t ∈ tokens, IsToken t)
  (hno : ∀ p ∈ phrases, firstWord p.toList ∉ tokens) {b : Option Char}

include hspoken htokens hno

/-- Phrases whose first words are no tokens of a row do not begin in it. -/
theorem nowhere_begins_row {a : List Char} (ha : a.head?.any isWordCharacter = false) :
    Nowhere (Begins phrases) b (join [' '] tokens) a :=
  nowhere_begins_of_spoken hspoken fun p hp =>
    nowhere_join (hspoken p hp).isWord htokens (hno p hp) ha

theorem nowhere_begins_frontText {a : List Char} :
    Nowhere (Begins phrases) b (frontText tokens) a :=
  nowhere_frontText (fun _ _ => not_begins_space)
    fun _ ha => nowhere_begins_row hspoken htokens hno (ha.head (by decide))

theorem nowhere_begins_backText : Nowhere (Begins phrases) b (backText tokens) [] :=
  nowhere_backText (fun _ _ => not_begins_space)
    fun _ => nowhere_begins_row hspoken htokens hno rfl

end Rows

/-! ## The longest phrase comes first -/

theorem IsProper.last_solid {e : List Char} (h : IsProper e) {c : Char} (hc : e.getLast? = some c) :
    isBlank c = false := by
  rcases h with hspoken | ⟨d, hd, rfl⟩
  · have hlast := hspoken.last
    rw [hc, Option.any_some] at hlast
    exact isBlank_of_isSmallLatin hlast
  · obtain rfl : d = c := by simpa using hc
    have hall : ∀ c ∈ signs, isBlank c = false := by decide
    exact hall d hd

theorem IsProper.mem {e : List Char} (h : IsProper e) {c : Char} (hc : c ∈ e) :
    c = ' ' ∨ isSmallLatin c = true ∨ c ∈ signs := by
  rcases h with hspoken | ⟨d, hd, rfl⟩
  · exact (hspoken.mem hc).imp_right Or.inl
  · rw [List.mem_singleton.mp hc]
    exact Or.inr (Or.inr hd)

/-- No digit is read with a phrase or sign. -/
theorem IsProper.not_digit {e v : List Char} (he : IsProper e) (h : Spells e v) {d : Char}
    (hd : isDecimalDigit d = true) : d ∉ v := by
  intro hmem
  have hother : isDecimalDigit d = false := by
    rcases h.blank_or_mem hmem with hblank | hmem
    · exact isDecimalDigit_of_isBlank hblank
    · rcases he.mem hmem with rfl | hletter | hsign
      · decide
      · exact isDecimalDigit_of_isSmallLatin hletter
      · have hall : ∀ c ∈ signs, isDecimalDigit c = false := by decide +kernel
        exact hall d hsign
  rw [hd] at hother
  exact Bool.noConfusion hother

/-- What is read as a phrase or sign does not end in a space. -/
theorem IsProper.getLast?_ne_space {e v : List Char} (he : IsProper e) (h : Spells e v) :
    v.getLast? ≠ some ' ' := by
  intro hend
  have hne : e ≠ [] := by
    rintro rfl
    cases h
    cases hend
  have hsolid := he.last_solid (List.getLast?_eq_some_getLast hne)
  have hsame := h.getLast? (List.getLast?_eq_some_getLast hne) (by
    intro hspace
    rw [hspace] at hsolid
    exact absurd hsolid (by decide))
  rw [hend] at hsame
  rw [← Option.some.inj hsame] at hsolid
  exact absurd hsolid (by decide)

/-- In front of a space and a digit no other phrase fits that is at least as long as the one that
stands there. -/
theorem not_fits_longer {e p : List Char} (he : IsProper e) (hp : IsProper p) (hne : e ≠ p)
    (hlength : p.length ≤ e.length) {d : Char} (hd : isDecimalDigit d = true) {r v a : List Char}
    {b : Option Char} (htext : p ++ ' ' :: d :: r = v ++ a) : ¬ Fits e b v a := by
  intro hfits
  have hspells := hfits.spells
  have hle := hspells.length_le
  -- neither the digit is read nor the space in front of it
  have hdigit : d ∉ v := he.not_digit hspells hd
  have hrow : (p ++ [' ']) ++ (d :: r) = v ++ a := by simpa using htext
  obtain ⟨x, hx⟩ : ∃ x, p ++ [' '] = v ++ x := by
    rcases List.append_eq_append_iff.mp hrow with ⟨x, hv, hx⟩ | ⟨x, hp, -⟩
    · cases x with
      | nil => exact ⟨[], by simp [hv]⟩
      | cons f x =>
        obtain ⟨rfl, -⟩ := List.cons.inj hx
        exact absurd (by rw [hv]; simp) hdigit
    · exact ⟨x, hp⟩
  have hvp : v = p := by
    rcases List.eq_nil_or_concat x with rfl | ⟨x, f, rfl⟩
    · rw [List.append_nil] at hx
      exact absurd (by rw [← hx]; simp) (he.getLast?_ne_space hspells)
    · have hsplit : p ++ [' '] = (v ++ x) ++ [f] := by simpa using hx
      obtain ⟨hpv, -⟩ := List.append_inj' hsplit rfl
      have hlen := congrArg List.length hpv
      rw [List.length_append] at hlen
      obtain rfl : x = [] := List.length_eq_zero_iff.mp (by omega)
      rw [hpv, List.append_nil]
  rw [hvp] at hspells
  refine hne (hspells.eq_of_length hlength ?_).symm
  intro c hc hblank
  rcases hp.mem hc with hspace | hletter | hsign
  · exact hspace
  · rw [isBlank_of_isSmallLatin hletter] at hblank
    exact absurd hblank Bool.noConfusion
  · have hall : ∀ c ∈ signs, isBlank c = false := by decide
    rw [hall c hsign] at hblank
    exact absurd hblank Bool.noConfusion

/-- An entry that fits is what a vocabulary reads first, unless another entry at least as long fits
there. -/
theorem first_longest {phrases : List String} {e : List Char} (he : e ∈ entries phrases) {s : Spot}
    {w a : List Char} (hs : s.rest = w ++ a) (hfits : Fits e s.before w a)
    (hother : ∀ f ∈ entries phrases, e.length ≤ f.length → ∀ w' a', w ++ a = w' ++ a' →
      Fits f s.before w' a' → f = e ∧ w' = w) :
    (pattern phrases).First s (past s w a []) := by
  have hsorted := entries_sorted phrases
  have hnil := nil_not_mem_entries phrases
  have hpattern : pattern phrases = anyOf (entries phrases) := by
    unfold pattern pattern?
    cases hentries : entries phrases with
    | nil => simp [hentries] at he
    | cons => rfl
  have hown : (entryPattern e).First s (past s w a []) := by
    apply first_of_reads hs
    · exact reads_entryPattern.mpr ⟨rfl, hfits⟩
    · intro w' a' k hw hr
      obtain ⟨hk, hfits'⟩ := reads_entryPattern.mp hr
      exact ⟨(hother e he (Nat.le_refl _) w' a' hw hfits').2, hk⟩
  obtain ⟨longer, shorter, hsplit, hnew⟩ := List.eq_append_cons_of_mem he
  -- what comes before the entry in the list is at least as long, so it does not fit
  have hlonger : longer.flatMap (fun f => (entryPattern f).spots s) = [] := by
    rw [List.flatMap_eq_nil_iff]
    intro f hf
    apply spots_eq_nil
    intro w' a' k hw hr
    rw [hs] at hw
    rw [hsplit, List.pairwise_append] at hsorted
    have hlength := hsorted.2.2 f hf e (by simp)
    obtain ⟨rfl, -⟩ := hother f (by rw [hsplit]; simp [hf]) hlength w' a' hw
      (reads_entryPattern.mp hr).2
    exact hnew hf
  rw [First, hpattern, spots_anyOf hnil, spots_oneOf, hsplit, List.flatMap_map, List.flatMap_append,
    hlonger, List.nil_append, List.flatMap_cons, List.head?_append]
  rw [First] at hown
  rw [hown]
  rfl

/-- A phrase where it is read is preferred, unless another entry at least as long fits there. -/
theorem prefers_longest {phrases : List String} (h : ∀ p ∈ phrases, IsProper p.toList) {p : String}
    (hp : p ∈ phrases) {b : Option Char} {a : List Char} (hfits : Fits p.toList b p.toList a)
    (hother : ∀ e ∈ entries phrases, e ≠ p.toList → p.toList.length ≤ e.length →
      ∀ w a', p.toList ++ a = w ++ a' → ¬ Fits e b w a') :
    (pattern phrases).Prefers b p.toList a [] := by
  have hmem : p.toList ∈ entries phrases := (mem_entries_of_proper h).mpr ⟨p, hp, rfl⟩
  have htidy : ∀ w a', p.toList ++ a = w ++ a' → Fits p.toList b w a' → w = p.toList := by
    intro w a' hw hfits'
    rcases h p hp with hspoken | ⟨c, hc, hsign⟩
    · exact eq_of_spells hfits'.spells hw (hspoken.isTidyAfter false)
    · rw [hsign] at hfits' ⊢
      exact (fits_sign hc).mp hfits'
  apply prefers_of_first
  rintro s rfl hs
  refine first_longest hmem hs hfits ?_
  intro f hf hlength w a' hw hfits'
  by_cases hsame : f = p.toList
  · rw [hsame] at hfits'
    exact ⟨hsame, htidy w a' hw hfits'⟩
  · exact absurd hfits' (hother f hf hsame hlength w a' hw)

end CalcSpeech.Vocabulary
