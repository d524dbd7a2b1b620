import CalcSpeech.Pattern.Shapes
import CalcSpeech.Text.Words
import CalcSpeech.Unicode.Lowercase

/-!
# Vocabularies

A vocabulary is what a list of words and phrases comes to once case, spacing, blanks, order and
repetition are set aside. Its pattern finds any entry as whole words, longer entries first, so
that `divided by` is found before `divided`.
-/

namespace CalcSpeech.Vocabulary

open Unicode Text Pattern

/-- The form in which a word or phrase is kept: words in lowercase with single spaces between. -/
def entry (phrase : String) : List Char := lowercase (collapse phrase.toList)

/-- Whether one entry comes before another: more characters first, then by code point. -/
def precedes (a b : List Char) : Bool :=
  if a.length = b.length then decide (a < b) else b.length < a.length

/-- Puts an entry in its place; an entry that is there already is not repeated. -/
def insert (new : List Char) : List (List Char) → List (List Char)
  | [] => [new]
  | other :: rest =>
    if new = other then other :: rest
    else if precedes new other then new :: other :: rest
    else other :: insert new rest

/-- The entries of a list of phrases in the order in which they are tried; blank phrases have
none. -/
def entries (phrases : List String) : List (List Char) :=
  ((phrases.map entry).filter (!·.isEmpty)).foldr insert []

/-- A word boundary where the entry ends in a letter or digit, and nothing where it does not. -/
def edge (side : Option Char) : Pattern :=
  if side.any isAlphanumeric then .boundary else .empty

/-- An entry as a pattern: its spaces stand for any gap, and it does not begin or end inside a
word. -/
def entryPattern (entry : List Char) : Pattern :=
  .inOrder ([edge entry.head?] ++ entry.map (fun c => if c = ' ' then .gap else .just c) ++
    [edge entry.getLast?])

/-- Whether a character of a text may stand for a character of an entry. -/
def standsFor (c own : Char) : Bool := if own = ' ' then isBlank c else c == own

/-- The pattern for any of some entries, tried only where one of them can begin. -/
def anyOf (entries : List (List Char)) : Pattern :=
  let heads := (entries.filterMap List.head?).eraseDups
  .ahead (fun c => heads.any (standsFor c)) (.oneOf (entries.map entryPattern))

/-- The pattern for any entry of a list of phrases; a list without entries has none. -/
def pattern? (phrases : List String) : Option Pattern :=
  match entries phrases with
  | [] => none
  | found => some (anyOf found)

/-- The pattern for any entry of a list of phrases, matching nowhere where there are none. -/
def pattern (phrases : List String) : Pattern := (pattern? phrases).getD .never

/-- An edge reads nothing. -/
theorem spots_edge (side : Option Char) (s : Spot) : ∀ t ∈ (edge side).spots s, t = s := by
  intro t ht
  unfold edge at ht
  split at ht <;> simp [spots] at ht
  · exact ht.2
  · exact ht

/-- An entry matches only where its first character can stand. -/
theorem spots_entryPattern_eq_nil {own : Char} {entry : List Char} {s : Spot}
    (h : s.rest.head?.any (standsFor · own) = false) :
    (entryPattern (own :: entry)).spots s = [] := by
  have first (last : Pattern) :
      (seq (if own = ' ' then gap else just own) last).spots s = [] := by
    unfold standsFor at h
    cases hs : s.rest with
    | nil => split <;> simp [gap, atLeastOne, just, spots, hs]
    | cons c rest => by_cases ho : own = ' ' <;> simp_all [gap, atLeastOne, just, spots]
  obtain ⟨last, hl⟩ : ∃ last, entryPattern (own :: entry) =
      seq (edge (own :: entry).head?) (seq (if own = ' ' then gap else just own) last) := by
    cases entry <;> exact ⟨_, rfl⟩
  rw [hl, spots, List.flatMap_eq_nil_iff]
  intro t ht
  rw [spots_edge _ _ t ht, first]

/-- Trying entries only where one of them can begin passes no match over. -/
theorem spots_anyOf {entries : List (List Char)} (h : [] ∉ entries) (s : Spot) :
    (anyOf entries).spots s = (oneOf (entries.map entryPattern)).spots s := by
  simp only [anyOf, spots]
  split
  · rfl
  · rename_i hs
    rw [spots_oneOf, eq_comm, List.flatMap_eq_nil_iff]
    intro p hp
    obtain ⟨entry, hentry, rfl⟩ := List.mem_map.mp hp
    cases entry with
    | nil => exact absurd hentry h
    | cons own rest =>
      apply spots_entryPattern_eq_nil
      cases hr : s.rest.head? with
      | none => rfl
      | some c =>
        simp only [hr, Option.any_some, List.any_eq_true, List.mem_eraseDups, not_exists,
          not_and, Bool.not_eq_true] at hs
        exact hs own (List.mem_filterMap.mpr ⟨own :: rest, hentry, rfl⟩)

/-- The entries after one was put in its place. -/
theorem mem_insert {x new : List Char} {rest : List (List Char)} :
    x ∈ insert new rest ↔ x = new ∨ x ∈ rest := by
  induction rest with
  | nil => simp [insert]
  | cons other rest ih =>
    unfold insert
    split
    · rename_i h
      simp [h]
    · split
      · simp
      · simp only [List.mem_cons, ih]
        exact or_left_comm

/-- The entries are the kept forms of the phrases that are not blank. -/
theorem mem_entries {x : List Char} {phrases : List String} :
    x ∈ entries phrases ↔ x ≠ [] ∧ ∃ phrase ∈ phrases, entry phrase = x := by
  have mem (found : List (List Char)) : x ∈ found.foldr insert [] ↔ x ∈ found := by
    induction found with
    | nil => rfl
    | cons new found ih => rw [List.foldr_cons, mem_insert, ih, List.mem_cons]
  rw [entries, mem, List.mem_filter, List.mem_map, and_comm]
  simp

end CalcSpeech.Vocabulary
