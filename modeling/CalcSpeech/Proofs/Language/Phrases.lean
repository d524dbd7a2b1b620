import CalcSpeech.Language.Builtin
import CalcSpeech.Language.FractionWord
import CalcSpeech.NumberWord.Rewrite
import CalcSpeech.Proofs.Vocabulary.Spoken

/-!
# The phrases of the built-in packs

Every phrase of a built-in pack is a spoken phrase or a sign, and has a character that no
expression has: a letter outside `sqrt`, or a sign for which another is written. Such facts are
evaluated pack by pack (`of_mem_builtinPacks`), on the characters of the strings (`Spelled`).
-/

namespace CalcSpeech

open Unicode Vocabulary

/-! ## Evaluating facts about packs -/

/-- The characters of each of some strings. A literal is `String.ofList` of its characters, so that
the constructors spell literals out where evaluating `String.toList` would be slow. -/
inductive Spelled : List String → List (List Char) → Prop
  | nil : Spelled [] []
  | cons {ss ls} (l : List Char) : Spelled ss ls → Spelled (String.ofList l :: ss) (l :: ls)

theorem Spelled.eq_map {ss : List String} {ls : List (List Char)} (h : Spelled ss ls) :
    ls = ss.map String.toList := by
  induction h with
  | nil => rfl
  | cons l _ ih => rw [ih, List.map_cons, String.toList_ofList]

/-- What holds of the characters of all strings that are spelled out holds of each of them. -/
theorem forall_of_spelled {ss : List String} {P : List Char → Prop}
    (h : ∃ ls, Spelled ss ls ∧ ∀ l ∈ ls, P l) : ∀ s ∈ ss, P s.toList := by
  obtain ⟨ls, hspelled, hall⟩ := h
  intro s hs
  apply hall
  rw [hspelled.eq_map]
  exact List.mem_map_of_mem hs

/-- A number for a word. Other words may have the same. -/
def wordKey (w : List Char) : Nat := w.foldl (fun n c => (n * 331 + c.toNat) % 65521) 0

namespace Lookup

/-- Whether a word is one of some words is read off the bits of their numbers. Only where its bit is
set is the word compared with each of them. -/
theorem test_iff {w : List Char} {ws : List (List Char)} :
    ((bitsOf (ws.map wordKey)).testBit (wordKey w) && ws.contains w) = true ↔ w ∈ ws := by
  rw [Bool.and_eq_true, List.contains_iff_mem]
  exact and_iff_right_of_imp fun hw => testBit_bitsOf.mpr (List.mem_map_of_mem hw)

scoped instance decidableMem (w : List Char) (ws : List (List Char)) : Decidable (w ∈ ws) :=
  decidable_of_iff _ test_iff

end Lookup

/-- What holds of each built-in pack by itself holds of all of them. -/
theorem of_mem_builtinPacks {P : LanguagePack → Prop} {pack : LanguagePack}
    (h : pack ∈ builtinPacks) (henglish : P english) (hfrench : P french) (hspanish : P spanish)
    (hportuguese : P portuguese) (hgerman : P german) (hitalian : P italian) : P pack := by
  simp only [builtinPacks, List.mem_cons, List.not_mem_nil, or_false] at h
  rcases h with rfl | rfl | rfl | rfl | rfl | rfl <;> assumption

/-! ## Phrases -/

/-- Whether a character belongs to speech alone: a letter that is not one of `sqrt`, or a sign for
which another is written. -/
def isVerbal (c : Char) : Bool :=
  (isSmallLatin c && !(['s', 'q', 'r', 't'].contains c)) || c == '×' || c == '÷'

/-- A spoken phrase or a sign, with a character that belongs to speech alone. -/
def IsPhrase (e : List Char) : Prop := IsProper e ∧ ∃ c ∈ e, isVerbal c = true

instance (e : List Char) : Decidable (IsPhrase e) := inferInstanceAs (Decidable (_ ∧ _))

/-- The pattern for some phrases needs a character that each of them has. -/
theorem needs_pattern_of {phrases : List String} {f : Char → Bool} (hspace : f ' ' = false)
    (h : ∀ p ∈ phrases, IsProper p.toList ∧ ∃ c ∈ p.toList, f c = true) :
    (pattern phrases).Needs f := by
  apply Pattern.needs_of_mem
  intro b w a k hr
  obtain ⟨-, e, he, hfits⟩ := reads_pattern.mp hr
  obtain ⟨p, hp, rfl⟩ := (mem_entries_of_proper fun p hp => (h p hp).1).mp he
  obtain ⟨c, hc, hf⟩ := (h p hp).2
  refine ⟨c, hfits.spells.mem hc ?_, hf⟩
  intro hcs
  rw [hcs, hspace] at hf
  exact Bool.false_ne_true hf

/-- The pattern for some phrases needs a character that belongs to speech alone. -/
theorem needs_pattern {phrases : List String} (h : ∀ p ∈ phrases, IsPhrase p.toList) :
    (pattern phrases).Needs isVerbal :=
  needs_pattern_of (by decide) h

/-- Digits of a number that is not too large. -/
def IsValue (digits : List Char) : Prop := Nat.ofDigitChars 10 digits 0 ≤ NumberWord.valueLimit

instance (digits : List Char) : Decidable (IsValue digits) := inferInstanceAs (Decidable (_ ≤ _))

namespace LanguagePack

/-- Every phrase of a pack, its number words apart. -/
def phraseStrings (pack : LanguagePack) : List String :=
  WordList.all.flatMap pack.words ++
    PhraseKind.all.flatMap fun kind => (pack.phrases kind).verbs ++ (pack.phrases kind).connectives

/-- All words of the pack are phrases, and its number words have values that are not too large. -/
structure IsOrdinary (pack : LanguagePack) : Prop where
  phrases : ∀ p ∈ pack.phraseStrings, IsPhrase p.toList
  numbers : ∀ p ∈ pack.numbers.map (·.1), IsPhrase p.toList
  values : ∀ d ∈ pack.numbers.map (·.2), IsValue d.toList

section

variable {pack : LanguagePack} (h : pack.IsOrdinary)

include h

theorem IsOrdinary.words {list : WordList} {p : String} (hp : p ∈ pack.words list) :
    IsPhrase p.toList := by
  apply h.phrases
  have hlist : list ∈ WordList.all := by cases list <;> decide
  exact List.mem_append_left _ (List.mem_flatMap.mpr ⟨list, hlist, hp⟩)

theorem IsOrdinary.template {kind : PhraseKind} {p : String}
    (hp : p ∈ (pack.phrases kind).verbs ∨ p ∈ (pack.phrases kind).connectives) :
    IsPhrase p.toList := by
  apply h.phrases
  have hkind : kind ∈ PhraseKind.all := by cases kind <;> decide
  refine List.mem_append_right _ (List.mem_flatMap.mpr ⟨kind, hkind, ?_⟩)
  exact List.mem_append.mpr hp

end

end LanguagePack

theorem isOrdinary_of_mem {pack : LanguagePack} (h : pack ∈ builtinPacks) : pack.IsOrdinary := by
  apply of_mem_builtinPacks h
  all_goals constructor
  all_goals
    apply forall_of_spelled
    constructor
    constructor
    · repeat' constructor
    · decide +kernel

/-- The scale words are phrases too. -/
theorem isPhrase_of_scaleWord : ∀ p ∈ scaleWords.map (·.1), IsPhrase p.toList := by
  apply forall_of_spelled
  constructor
  constructor
  · repeat' constructor
  · decide +kernel

end CalcSpeech
