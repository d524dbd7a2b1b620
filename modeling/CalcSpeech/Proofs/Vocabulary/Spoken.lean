import CalcSpeech.Proofs.Text.Words
import CalcSpeech.Proofs.Unicode.Spoken
import CalcSpeech.Proofs.Vocabulary.Reading

/-!
# Spoken phrases and signs

The packs list phrases of small Latin words (`IsSpoken`) and a few signs. Such a phrase is its own
entry, and where it is read its first word stands as a word of the text (`word_of_fits`). That is
what keeps vocabularies apart: where no word of a text is the first word of a phrase, nothing is
found (`nowhere_begins`); and where the phrases of a vocabulary differ in their first words, what is
found at a place is the only thing that could be (`first_pattern`).
-/

namespace CalcSpeech.Vocabulary

open Unicode Text Pattern

/-- Words of small Latin letters with single spaces between them, at least one. -/
def IsSpoken (e : List Char) : Prop :=
  words e ≠ [] ∧ join [' '] (words e) = e ∧ ∀ w ∈ words e, w ≠ [] ∧ ∀ c ∈ w, isSmallLatin c = true

instance (e : List Char) : Decidable (IsSpoken e) :=
  inferInstanceAs (Decidable (_ ∧ _ ∧ _))

/-- The signs that packs list among their words, and those that are added to the words. -/
def signs : List Char := ['%', '+', '-', '×', '÷']

/-- A spoken phrase or a sign. -/
def IsProper (e : List Char) : Prop := IsSpoken e ∨ ∃ c ∈ signs, e = [c]

instance (e : List Char) : Decidable (IsProper e) :=
  inferInstanceAs (Decidable (_ ∨ _))

/-- The first word of a phrase. -/
def firstWord (e : List Char) : List Char := (words e).headD []

/-- A phrase is one word, or it has a space behind its first word. -/
theorem IsSpoken.words_cases {e : List Char} (h : IsSpoken e) :
    words e = [e] ∨ ∃ rest, e = firstWord e ++ ' ' :: rest := by
  obtain ⟨hne, hjoin, -⟩ := h
  unfold firstWord
  cases hw : words e with
  | nil => exact absurd hw hne
  | cons x ws =>
    rw [hw] at hjoin
    cases ws with
    | nil =>
      obtain rfl : x = e := hjoin
      exact Or.inl rfl
    | cons y ws =>
      refine Or.inr ⟨join [' '] (y :: ws), ?_⟩
      rw [← hjoin, join]
      · simp
      · exact List.cons_ne_nil y ws

/-- What a phrase has behind its first word. -/
theorem IsSpoken.eq_firstWord {e : List Char} (h : IsSpoken e) :
    e = firstWord e ∨ ∃ rest, e = firstWord e ++ ' ' :: rest := by
  rcases h.words_cases with hone | hmore
  · refine Or.inl ?_
    rw [firstWord, hone]
    rfl
  · exact Or.inr hmore

theorem IsSpoken.firstWord_mem {e : List Char} (h : IsSpoken e) : firstWord e ∈ words e := by
  unfold firstWord
  cases hw : words e with
  | nil => exact absurd hw h.1
  | cons x ws => simp

theorem IsSpoken.isWord_of_mem {e t : List Char} (h : IsSpoken e) (ht : t ∈ words e) :
    IsWord t := by
  obtain ⟨hne, hletters⟩ := h.2.2 t ht
  exact ⟨hne, fun c hc => isLetter_of_isSmallLatin (hletters c hc)⟩

theorem IsSpoken.isWord {e : List Char} (h : IsSpoken e) : IsWord (firstWord e) :=
  h.isWord_of_mem h.firstWord_mem

theorem IsSpoken.head {e : List Char} (h : IsSpoken e) : e.head?.any isSmallLatin = true := by
  obtain ⟨hne, hletters⟩ := h.2.2 _ h.firstWord_mem
  obtain ⟨c, x, hx⟩ := List.exists_cons_of_ne_nil hne
  have hc : isSmallLatin c = true := hletters c (by rw [hx]; simp)
  have hhead : e.head? = some c := by
    rcases h.eq_firstWord with he | ⟨rest, he⟩ <;> rw [he, hx] <;> rfl
  rw [hhead]
  exact hc

/-- The characters of joined parts are those of the parts and the separators. -/
theorem mem_join {c : Char} {parts : List (List Char)} (h : c ∈ join [' '] parts) :
    c = ' ' ∨ ∃ p ∈ parts, c ∈ p := by
  induction parts with
  | nil => cases h
  | cons p parts ih =>
    cases parts with
    | nil => exact Or.inr ⟨p, by simp, h⟩
    | cons q parts =>
      have h : c ∈ p ++ [' '] ++ join [' '] (q :: parts) := h
      rw [List.mem_append, List.mem_append, List.mem_singleton] at h
      rcases h with (hp | hspace) | hrest
      · exact Or.inr ⟨p, by simp, hp⟩
      · exact Or.inl hspace
      · rcases ih hrest with hspace | ⟨r, hr, hcr⟩
        · exact Or.inl hspace
        · exact Or.inr ⟨r, List.mem_cons_of_mem p hr, hcr⟩

theorem IsSpoken.mem {e : List Char} (h : IsSpoken e) {c : Char} (hc : c ∈ e) :
    c = ' ' ∨ isSmallLatin c = true := by
  rw [← h.2.1] at hc
  rcases mem_join hc with hspace | ⟨w, hw, hcw⟩
  · exact Or.inl hspace
  · exact Or.inr ((h.2.2 w hw).2 c hcw)

/-- Joined parts end in the last of them. -/
theorem exists_join_eq_append {parts : List (List Char)} (h : parts ≠ []) :
    ∃ u, join [' '] parts = u ++ parts.getLast h := by
  induction parts with
  | nil => exact absurd rfl h
  | cons p parts ih =>
    cases parts with
    | nil => exact ⟨[], rfl⟩
    | cons q parts =>
      obtain ⟨u, hu⟩ := ih (List.cons_ne_nil q parts)
      refine ⟨p ++ [' '] ++ u, ?_⟩
      have hjoin : join [' '] (p :: q :: parts) = p ++ [' '] ++ join [' '] (q :: parts) := rfl
      rw [hjoin, hu, List.getLast_cons (List.cons_ne_nil q parts), ← List.append_assoc]

theorem IsSpoken.last {e : List Char} (h : IsSpoken e) : e.getLast?.any isSmallLatin = true := by
  obtain ⟨hne, hletters⟩ := h.2.2 _ (List.getLast_mem h.1)
  obtain ⟨u, hu⟩ := exists_join_eq_append h.1
  rw [← h.2.1, hu, List.getLast?_append_of_ne_nil _ hne, List.getLast?_eq_some_getLast hne]
  exact hletters _ (List.getLast_mem hne)

theorem steady_space : Steady ' ' := steady_of_lt (by decide) (by decide)

/-- A spoken phrase is its own entry. -/
theorem IsSpoken.entry_eq {phrase : String} (h : IsSpoken phrase.toList) :
    entry phrase = phrase.toList := by
  have hcollapse : collapse phrase.toList = phrase.toList := h.2.1
  unfold entry
  rw [hcollapse, lowercase, lowercaseAfter_of_steady]
  intro c hc
  rcases h.mem hc with hspace | hsmall
  · rw [hspace]
    exact steady_space
  · exact steady_of_isSmallLatin hsmall

/-- Spoken phrases and signs are their own entries. -/
theorem entry_of_proper {phrase : String} (h : IsProper phrase.toList) :
    entry phrase = phrase.toList := by
  rcases h with h | ⟨c, hc, he⟩
  · exact h.entry_eq
  · unfold entry
    rw [he]
    have hall : ∀ c ∈ signs, lowercase (collapse [c]) = [c] := by decide
    exact hall c hc

/-- The entries of spoken phrases and signs. -/
theorem mem_entries_of_proper {phrases : List String} (h : ∀ p ∈ phrases, IsProper p.toList)
    {e : List Char} : e ∈ entries phrases ↔ ∃ p ∈ phrases, e = p.toList := by
  rw [mem_entries]
  constructor
  · intro ⟨_, p, hp, he⟩
    exact ⟨p, hp, by rw [← he, entry_of_proper (h p hp)]⟩
  · intro ⟨p, hp, he⟩
    refine ⟨?_, p, hp, by rw [he, entry_of_proper (h p hp)]⟩
    rw [he]
    rcases h p hp with hspoken | ⟨c, -, hc⟩
    · intro hnil
      have hhead := hspoken.head
      rw [hnil] at hhead
      cases hhead
    · rw [hc]
      exact List.cons_ne_nil c []

/-! ## What a phrase is read from -/

theorem spells_append {e f w : List Char} :
    Spells (e ++ f) w ↔ ∃ u v, w = u ++ v ∧ Spells e u ∧ Spells f v := by
  induction e generalizing w with
  | nil =>
    constructor
    · intro h
      exact ⟨[], w, rfl, .nil, h⟩
    · intro ⟨u, v, hw, hu, hv⟩
      cases hu
      rw [hw]
      exact hv
  | cons c e ih =>
    constructor
    · intro h
      cases h with
      | gap hne hg hw =>
        obtain ⟨u, v, rfl, hu, hv⟩ := ih.mp hw
        exact ⟨_, v, (List.append_assoc _ u v).symm, .gap hne hg hu, hv⟩
      | own hc hw =>
        obtain ⟨u, v, rfl, hu, hv⟩ := ih.mp hw
        exact ⟨c :: u, v, rfl, .own hc hu, hv⟩
    · intro ⟨u, v, hw, hu, hv⟩
      rw [hw]
      cases hu with
      | gap hne hg hu =>
        rw [List.cons_append, List.append_assoc]
        exact .gap hne hg (ih.mpr ⟨_, v, rfl, hu, hv⟩)
      | own hc hu => exact .own hc (ih.mpr ⟨_, v, rfl, hu, hv⟩)

/-- A text without spaces is spelled by itself only. -/
theorem eq_of_spells_solid {e w : List Char} (he : ∀ c ∈ e, c ≠ ' ') (h : Spells e w) : w = e := by
  induction h with
  | nil => rfl
  | gap => exact absurd rfl (he ' ' (by simp))
  | own _ _ ih => rw [ih fun d hd => he d (by simp [hd])]

/-- Every phrase spells itself. -/
theorem spells_self (e : List Char) : Spells e e := by
  induction e with
  | nil => exact .nil
  | cons c e ih =>
    by_cases hc : c = ' '
    · rw [hc]
      refine .gap (g := [' ']) (List.cons_ne_nil _ _) ?_ ih
      intro d hd
      rw [List.mem_singleton.mp hd]
      decide
    · exact .own hc ih

/-- What spells a phrase has all its letters. -/
theorem Spells.mem {e w : List Char} (h : Spells e w) {c : Char} (hc : c ∈ e) (hne : c ≠ ' ') :
    c ∈ w := by
  induction h with
  | nil => cases hc
  | gap _ _ _ ih =>
    rcases List.mem_cons.mp hc with hspace | hc
    · exact absurd hspace hne
    · exact List.mem_append_right _ (ih hc)
  | own _ _ ih =>
    rcases List.mem_cons.mp hc with rfl | hc
    · exact List.mem_cons_self
    · exact List.mem_cons_of_mem _ (ih hc)

theorem ne_space_of_isSmallLatin {c : Char} (h : isSmallLatin c = true) : c ≠ ' ' := by
  intro hc
  rw [hc] at h
  exact absurd h (by decide)

/-- Where a spoken phrase is read its first word stands. -/
theorem word_of_fits {e w a : List Char} {b : Option Char} (he : IsSpoken e) (h : Fits e b w a) :
    WordAt (firstWord e) b (w ++ a) := by
  obtain ⟨hspells, hopens, hcloses⟩ := h
  obtain ⟨hne, hletters⟩ := he.2.2 _ he.firstWord_mem
  have hsolid : ∀ c ∈ firstWord e, c ≠ ' ' := fun c hc => ne_space_of_isSmallLatin (hletters c hc)
  have hword {side : Option Char} (hside : side.any isSmallLatin = true) :
      side.any isAlphanumeric = true ∧ side.any isWordCharacter = true := by
    cases side with
    | none => cases hside
    | some c => exact ⟨isAlphanumeric_of_isLetter (isLetter_of_isSmallLatin hside),
        isWordCharacter_of_isLetter (isLetter_of_isSmallLatin hside)⟩
  have hhead : (w ++ a).head? = e.head? := by
    obtain ⟨c, x, hx⟩ := List.exists_cons_of_ne_nil hne
    rcases he.eq_firstWord with hfirst | ⟨rest, hfirst⟩
    · rw [hfirst] at hspells ⊢
      rw [eq_of_spells_solid hsolid hspells, hx]
      rfl
    · rw [hfirst] at hspells
      obtain ⟨u, v, rfl, hu, -⟩ := spells_append.mp hspells
      rw [hfirst, eq_of_spells_solid hsolid hu, hx]
      rfl
  -- the word ends with the phrase, or in front of the blanks between two of its words
  refine ⟨?_, ?_⟩
  · have hboundary := hopens (hword he.head).1
    rw [hhead, isWordBoundary, (hword he.head).2] at hboundary
    simpa using hboundary
  · rcases he.eq_firstWord with hfirst | ⟨rest, hfirst⟩
    · rw [hfirst] at hspells
      have hw : w = firstWord e := eq_of_spells_solid hsolid hspells
      refine ⟨a, by rw [hw], ?_⟩
      have hlast : behind b w = e.getLast? := by
        rw [hw, behind_of_ne_nil b hne, ← List.getLast?_eq_some_getLast hne]
        exact congrArg List.getLast? hfirst.symm
      have hboundary := hcloses (hword he.last).1
      rw [isWordBoundary, hlast, (hword he.last).2] at hboundary
      simpa using hboundary
    · rw [hfirst] at hspells
      obtain ⟨u, v, rfl, hu, hv⟩ := spells_append.mp hspells
      obtain ⟨c, v, rfl, hc⟩ := hv.head
      refine ⟨c :: v ++ a, by rw [eq_of_spells_solid hsolid hu, List.append_assoc], ?_⟩
      rw [standsFor, if_pos rfl] at hc
      rw [List.cons_append, List.head?_cons, Option.any_some, isWordCharacter_of_isBlank hc]

/-! ## Where a vocabulary finds something -/

/-- One of the phrases may begin here: its first word stands here, or the sign that it is. -/
def Begins (phrases : List String) (before : Option Char) (rest : List Char) : Prop :=
  ∃ p ∈ phrases, (IsSpoken p.toList ∧ WordAt (firstWord p.toList) before rest) ∨
    ∃ c ∈ signs, p.toList = [c] ∧ rest.head? = some c

section Signs

variable {c : Char} {w a : List Char} {b : Option Char}

theorem isAlphanumeric_of_sign (h : c ∈ signs) : isAlphanumeric c = false := by
  have hall : ∀ c ∈ signs, isAlphanumeric c = false := by decide +kernel
  exact hall c h

theorem isLetter_of_sign (h : c ∈ signs) : isLetter c = false := by
  have hall : ∀ c ∈ signs, isLetter c = false := by decide +kernel
  exact hall c h

/-- No spoken phrase is a sign. -/
theorem IsSpoken.ne_sign {e : List Char} (he : IsSpoken e) (h : c ∈ signs) : e ≠ [c] := by
  intro hsign
  have hletter := isLetter_of_isSmallLatin (c := c) (by simpa [hsign] using he.head)
  rw [isLetter_of_sign h] at hletter
  exact Bool.false_ne_true hletter

/-- A sign is read wherever it stands. -/
theorem fits_sign (h : c ∈ signs) : Fits [c] b w a ↔ w = [c] := by
  have hspace : ∀ d ∈ [c], d ≠ ' ' := by
    intro d hd
    rw [List.mem_singleton.mp hd]
    intro hc
    rw [hc] at h
    exact absurd h (by decide)
  have hedged {before after : Option Char} : Edged (some c) before after := by
    intro hside
    rw [Option.any_some, isAlphanumeric_of_sign h] at hside
    exact absurd hside Bool.false_ne_true
  constructor
  · intro hfits
    exact eq_of_spells_solid hspace hfits.spells
  · intro hw
    rw [hw]
    exact ⟨spells_self _, hedged, hedged⟩

end Signs

/-- What is found begins where it is found. -/
theorem begins_of_finds {phrases : List String} (h : ∀ p ∈ phrases, IsProper p.toList)
    {b : Option Char} {w a : List Char} (hfinds : Finds phrases b w a) :
    Begins phrases b (w ++ a) ∧ w ≠ [] := by
  obtain ⟨e, he, hfits⟩ := hfinds
  obtain ⟨p, hp, rfl⟩ := (mem_entries_of_proper h).mp he
  have hne : w ≠ [] := by
    obtain ⟨own, e, he⟩ := List.exists_cons_of_ne_nil (mem_entries.mp he).1
    have hspells := hfits.spells
    rw [he] at hspells
    obtain ⟨c, v, hw, -⟩ := hspells.head
    rw [hw]
    exact List.cons_ne_nil c v
  refine ⟨⟨p, hp, ?_⟩, hne⟩
  rcases h p hp with hspoken | ⟨c, hc, hsign⟩
  · exact Or.inl ⟨hspoken, word_of_fits hspoken hfits⟩
  · refine Or.inr ⟨c, hc, hsign, ?_⟩
    rw [hsign] at hfits
    rw [(fits_sign hc).mp hfits]
    rfl

section Phrases

variable {phrases : List String}

theorem opensAt_pattern (h : ∀ p ∈ phrases, IsProper p.toList) :
    (pattern phrases).OpensAt (Begins phrases) := by
  intro b w a k hr
  exact (begins_of_finds h (reads_pattern.mp hr).2).1

theorem needsAt_pattern (h : ∀ p ∈ phrases, IsProper p.toList) :
    (pattern phrases).NeedsAt (Begins phrases) := by
  intro b w a k hr
  obtain ⟨hbegins, hne⟩ := begins_of_finds h (reads_pattern.mp hr).2
  exact ⟨[], w, rfl, hne, hbegins⟩

/-- Where no word is the first word of a phrase and no character is a sign of the vocabulary,
nothing begins. -/
theorem nowhere_begins {b : Option Char} {u a : List Char}
    (hwords : ∀ p ∈ phrases, IsSpoken p.toList → Nowhere (WordAt (firstWord p.toList)) b u a)
    (hsigns : ∀ c ∈ signs, String.ofList [c] ∈ phrases → c ∉ u) :
    Nowhere (Begins phrases) b u a := by
  intro v d w hu hbegins
  obtain ⟨p, hp, ⟨hspoken, hword⟩ | ⟨c, hc, hsign, hhead⟩⟩ := hbegins
  · exact hwords p hp hspoken v d w hu hword
  · obtain rfl : d = c := by simpa using hhead
    refine hsigns d hc ?_ (by rw [hu]; simp)
    rw [← hsign, String.ofList_toList]
    exact hp

/-- Where no word is the first word of a spoken phrase, none of the phrases begins. -/
theorem nowhere_begins_of_spoken {b : Option Char} {u a : List Char}
    (hspoken : ∀ p ∈ phrases, IsSpoken p.toList)
    (hwords : ∀ p ∈ phrases, Nowhere (WordAt (firstWord p.toList)) b u a) :
    Nowhere (Begins phrases) b u a :=
  nowhere_begins (fun p hp _ => hwords p hp) fun _ hc hp =>
    absurd String.toList_ofList ((hspoken _ hp).ne_sign hc)

theorem isBlank_of_isSmallLatin {c : Char} (h : isSmallLatin c = true) : isBlank c = false :=
  isBlank_of_isLetter (isLetter_of_isSmallLatin h)

/-- A phrase or sign does not begin with a blank. -/
theorem IsProper.head_solid {e a : List Char} (he : IsProper e) :
    (e ++ a).head?.any isBlank = false := by
  rcases he with he | ⟨c, hc, rfl⟩
  · have hhead := he.head
    cases e with
    | nil => cases hhead
    | cons d e => exact isBlank_of_isSmallLatin hhead
  · have hall : ∀ c ∈ signs, isBlank c = false := by decide
    exact hall c hc

/-- Nothing begins at a blank. -/
theorem Begins.solid {b : Option Char} {r : List Char} (h : Begins phrases b r) :
    r.head?.any isBlank = false := by
  obtain ⟨p, -, ⟨hspoken, hword⟩ | ⟨c, hc, -, hhead⟩⟩ := h
  · have hletter := hword.head hspoken.isWord
    cases r with
    | nil => rfl
    | cons d r => exact isBlank_of_isLetter hletter
  · have hall : ∀ c ∈ signs, isBlank c = false := by decide
    rw [hhead]
    exact hall c hc

/-- Nothing begins at the end of a text. -/
theorem Begins.ne_nil {b : Option Char} {r : List Char} (h : Begins phrases b r) : r ≠ [] := by
  rintro rfl
  obtain ⟨p, -, ⟨hspoken, hword⟩ | ⟨c, -, -, hhead⟩⟩ := h
  · exact absurd (hword.head hspoken.isWord) Bool.false_ne_true
  · cases hhead

theorem not_begins_space {b : Option Char} {r : List Char} : ¬ Begins phrases b (' ' :: r) :=
  fun h => absurd h.solid (by show ¬ isBlank ' ' = false; decide)

/-- Where a word stands no phrase begins that has another first word. -/
theorem not_begins_word {w a : List Char} {b : Option Char} (hw : IsWord w)
    (hb : b.any isWordCharacter = false) (ha : a.head?.any isWordCharacter = false)
    (h : ∀ p ∈ phrases, IsSpoken p.toList → firstWord p.toList ≠ w) :
    ¬ Begins phrases b (w ++ a) := by
  rintro ⟨p, hp, ⟨hspoken, hword⟩ | ⟨c, hc, -, hhead⟩⟩
  · exact h p hp hspoken (hword.unique hspoken.isWord hw ⟨hb, a, rfl, ha⟩)
  · obtain ⟨d, w, rfl⟩ := List.exists_cons_of_ne_nil hw.1
    obtain rfl : d = c := by simpa using hhead
    have hletter := hw.2 d List.mem_cons_self
    rw [isLetter_of_sign hc] at hletter
    exact Bool.false_ne_true hletter

/-- Where a spoken phrase stands no phrase begins but those with the same first word. -/
theorem not_begins_spoken {e a : List Char} {b : Option Char} (he : IsSpoken e)
    (hb : b.any isWordCharacter = false) (ha : a.head?.any isWordCharacter = false)
    (h : ∀ p ∈ phrases, IsSpoken p.toList → firstWord p.toList ≠ firstWord e) :
    ¬ Begins phrases b (e ++ a) := by
  rcases he.eq_firstWord with hone | ⟨rest, hmore⟩
  · rw [hone]
    exact not_begins_word he.isWord hb ha h
  · rw [hmore, List.append_assoc]
    exact not_begins_word he.isWord hb head_space h

/-- A proper phrase where no word goes on at either side. -/
theorem fits_self {e a : List Char} {b : Option Char} (he : IsProper e)
    (hb : b.any isWordCharacter = false) (ha : a.head?.any isWordCharacter = false) :
    Fits e b e a := by
  rcases he with he | ⟨c, hc, rfl⟩
  · have hword {side : Option Char} (hside : side.any isSmallLatin = true) :
        side.any isWordCharacter = true := by
      cases side with
      | none => cases hside
      | some c => exact isWordCharacter_of_isLetter (isLetter_of_isSmallLatin hside)
    have hlast := he.last
    have hne : e ≠ [] := by
      intro hnil
      rw [hnil] at hlast
      cases hlast
    refine ⟨spells_self e, ?_, ?_⟩
    · intro _
      have hhead : (e ++ a).head? = e.head? := by
        obtain ⟨c, e, rfl⟩ := List.exists_cons_of_ne_nil hne
        rfl
      rw [hhead, isWordBoundary, hb, hword he.head]
      rfl
    · intro _
      rw [behind_of_ne_nil b hne, ← List.getLast?_eq_some_getLast hne, isWordBoundary, ha,
        hword hlast]
      rfl
  · exact (fits_sign hc).mpr rfl

/-- What spells a tidy phrase in a text that begins with the phrase is the phrase. -/
theorem eq_of_spells {e w a a' : List Char} (h : Spells e w) (hw : e ++ a = w ++ a')
    {inWord : Bool} (htidy : isTidyAfter inWord e = true) : w = e := by
  induction h generalizing inWord with
  | nil => rfl
  | @gap g e w hne hblank _ ih =>
    rw [isTidyAfter, if_pos rfl, Bool.and_eq_true] at htidy
    obtain ⟨c, g, rfl⟩ := List.exists_cons_of_ne_nil hne
    rw [List.cons_append, List.cons_append, List.cons_append, List.append_assoc] at hw
    obtain ⟨rfl, hrest⟩ := List.cons.inj hw
    cases g with
    | nil => rw [List.cons_append, List.nil_append, ih hrest htidy.2]
    | cons d g =>
      -- behind the space the phrase goes on with a letter, the gap with a blank
      have hd : isBlank d = true := hblank d (by simp)
      cases e with
      | nil => exact absurd htidy.2 (by decide)
      | cons d' e =>
        obtain ⟨rfl, -⟩ := List.cons.inj hrest
        have hsolid := htidy.2
        rw [isTidyAfter] at hsolid
        split at hsolid
        · exact absurd hsolid Bool.false_ne_true
        · rw [hd] at hsolid
          exact absurd hsolid Bool.false_ne_true
  | @own c e w hc _ ih =>
    rw [isTidyAfter, if_neg hc, Bool.and_eq_true] at htidy
    rw [ih (List.cons.inj hw).2 htidy.2]

theorem IsSpoken.isTidyAfter {e : List Char} (h : IsSpoken e) (inWord : Bool) :
    isTidyAfter inWord e = true := by
  rw [← h.2.1]
  apply isTidyAfter_join h.1
  intro w hw
  obtain ⟨hne, hletters⟩ := h.2.2 w hw
  exact ⟨hne, fun c hc => isBlank_of_isSmallLatin (hletters c hc)⟩

/-- No two phrases begin with the same word. -/
def AreDistinct (phrases : List String) : Prop :=
  ∀ p ∈ phrases, ∀ q ∈ phrases, firstWord p.toList = firstWord q.toList → p.toList = q.toList

/-- Where a phrase fits no other reading of a vocabulary with distinct first words does. -/
theorem eq_of_finds (h : ∀ p ∈ phrases, IsProper p.toList) (hdistinct : AreDistinct phrases)
    {p : String} (hp : p ∈ phrases) {b : Option Char} {w a a' : List Char}
    (hfits : Fits p.toList b p.toList a) (hw : p.toList ++ a = w ++ a')
    (hfinds : Finds phrases b w a') : w = p.toList := by
  obtain ⟨e, he, hother⟩ := hfinds
  obtain ⟨q, hq, rfl⟩ := (mem_entries_of_proper h).mp he
  have hletter {e f : List Char} {c : Char} (he : IsSpoken e) (hc : c ∈ signs)
      (hhead : (e ++ f).head? = some c) : False := by
    have hsmall := he.head
    cases e with
    | nil => cases hsmall
    | cons d e =>
      obtain rfl : d = c := by simpa using hhead
      have := isLetter_of_isSmallLatin hsmall
      rw [isLetter_of_sign hc] at this
      exact Bool.false_ne_true this
  -- two phrases have the first word in common, and a sign is no letter
  rcases h p hp with hspoken | ⟨c, hc, hsign⟩
  · rcases h q hq with hspoken' | ⟨d, hd, hsign'⟩
    · have hword := word_of_fits hspoken hfits
      have hword' := word_of_fits hspoken' hother
      rw [← hw] at hword'
      have hfirst := hword'.unique hspoken'.isWord hspoken.isWord hword
      rw [hdistinct q hq p hp hfirst] at hother
      exact eq_of_spells hother.spells hw (hspoken.isTidyAfter false)
    · rw [hsign'] at hother
      rw [(fits_sign hd).mp hother] at hw
      exact (hletter hspoken hd (by rw [hw]; rfl)).elim
  · rcases h q hq with hspoken' | ⟨d, hd, hsign'⟩
    · obtain ⟨-, r, hr, -⟩ := word_of_fits hspoken' hother
      rw [← hw, hsign] at hr
      obtain ⟨x, y, hx⟩ := List.exists_cons_of_ne_nil hspoken'.isWord.1
      have hx' : isLetter x = true := hspoken'.isWord.2 x (by rw [hx]; simp)
      rw [hx] at hr
      obtain ⟨rfl, -⟩ := List.cons.inj hr
      rw [isLetter_of_sign hc] at hx'
      exact absurd hx' Bool.false_ne_true
    · rw [hsign'] at hother
      have hwd := (fits_sign hd).mp hother
      rw [hsign, hwd] at hw
      rw [hwd, hsign, (List.cons.inj hw).1]

/-- A phrase that fits is what a vocabulary with distinct first words reads first. -/
theorem first_pattern (h : ∀ p ∈ phrases, IsProper p.toList) (hdistinct : AreDistinct phrases)
    {p : String} (hp : p ∈ phrases) {s : Spot} {a : List Char} (hs : s.rest = p.toList ++ a)
    (hfits : Fits p.toList s.before p.toList a) :
    (pattern phrases).First s (past s p.toList a []) := by
  apply first_of_reads hs
  · exact reads_pattern.mpr ⟨rfl, p.toList, (mem_entries_of_proper h).mpr ⟨p, hp, rfl⟩, hfits⟩
  · intro w a' k hw hr
    obtain ⟨hk, hfinds⟩ := reads_pattern.mp hr
    exact ⟨eq_of_finds h hdistinct hp hfits hw hfinds, hk⟩

/-- A list with phrases has a pattern. -/
theorem pattern?_of_mem (h : ∀ p ∈ phrases, IsProper p.toList) {p : String} (hp : p ∈ phrases) :
    pattern? phrases = some (pattern phrases) :=
  pattern?_of_entry ((mem_entries_of_proper h).mpr ⟨p, hp, rfl⟩)

theorem prefers_pattern (h : ∀ p ∈ phrases, IsProper p.toList) (hdistinct : AreDistinct phrases)
    {p : String} (hp : p ∈ phrases) {b : Option Char} {a : List Char}
    (hfits : Fits p.toList b p.toList a) : (pattern phrases).Prefers b p.toList a [] := by
  apply prefers_of_first
  intro s hb hs
  exact first_pattern h hdistinct hp hs (by rw [hb]; exact hfits)

end Phrases

end CalcSpeech.Vocabulary
