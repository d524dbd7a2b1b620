import CalcSpeech.Language.PackJson
import CalcSpeech.Language.PackText
import CalcSpeech.Proofs.Json.Record
import CalcSpeech.Proofs.Json.Writing
import Mathlib.Data.String.Basic

/-!
# A written pack is read back

A valid pack is read from every text that gives its fields (`ofText_written`): in any order or by
their places, with fields of other names among them, with or without those that hold their defaults,
and with the characters of its texts spelled in any way. The record that a pack is written as is such a text.
-/

namespace CalcSpeech

open Json

/-- A field holds the value that was read, or that which it is filled with. -/
theorem read_or_default {α : Type} {p : Prop} [Decidable p] {value default : α}
    (h : p ∨ value = default) : (if p then value else default) = value := by
  split_ifs with hp
  · rfl
  · exact (h.resolve_left hp).symm

/-! ## Phrases -/

namespace PhraseTemplate

/-- The fields of a phrase, as they are given. -/
def forms (t : PhraseTemplate) : List FieldForm :=
  [⟨"verbs", (· = Draft.ofTexts t.verbs), t.verbs = []⟩,
    ⟨"connectives", (· = Draft.ofTexts t.connectives), t.connectives = []⟩]

/-- A phrase with those of its fields that were read. -/
def part (t : PhraseTemplate) (read : List String) : PhraseTemplate where
  verbs := if "verbs" ∈ read then t.verbs else []
  connectives := if "connectives" ∈ read then t.connectives else []

theorem builds (t : PhraseTemplate) : Fields.Builds fields t.forms t.part := by
  refine .cons ⟨rfl, ?_⟩ (.cons ⟨rfl, ?_⟩ .nil)
  all_goals
    rintro read draft - rfl
    simp only [asTexts_ofTexts]
    simp [part]

/-- A phrase is read from every draft that gives it. -/
theorem decode_isRecord {t : PhraseTemplate} {draft : Draft} (h : IsRecord t.forms draft)
    (hcomplete : draft.isComplete = true) : decode draft = .ok t := by
  refine t.builds.decode ?_ h hcomplete
  intro read hread
  obtain ⟨hverbs, hread⟩ := List.forall_mem_cons.mp hread
  obtain ⟨hconnectives, -⟩ := List.forall_mem_cons.mp hread
  rw [part, read_or_default hverbs, read_or_default hconnectives]

end PhraseTemplate

/-- The phrases of a language, as they are given. -/
def phraseForms (phrases : PhraseKind → PhraseTemplate) : List FieldForm :=
  PhraseKind.all.map fun kind => ⟨kind.name, IsRecord (phrases kind).forms, phrases kind = {}⟩

/-- The phrases of a language as far as they were read. -/
def phrasePart (phrases : PhraseKind → PhraseTemplate) (read : List String) :
    PhraseKind → PhraseTemplate :=
  fun kind => if kind.name ∈ read then phrases kind else {}

theorem PhraseKind.name_injective : Function.Injective PhraseKind.name := by
  intro kind other h
  cases kind <;> cases other <;> first | rfl | exact absurd h (by decide)

theorem PhraseKind.mem_all (kind : PhraseKind) : kind ∈ PhraseKind.all := by
  cases kind <;> decide

theorem builds_phrases (phrases : PhraseKind → PhraseTemplate) :
    Fields.Builds phraseFields (phraseForms phrases) (phrasePart phrases) := by
  refine forall₂_map_map fun kind _ => ⟨rfl, ?_⟩
  intro read draft hcomplete hdraft
  simp only [PhraseTemplate.decode_isRecord hdraft hcomplete]
  refine congrArg Except.ok (funext fun other => ?_)
  by_cases hkind : other = kind
  · rw [setPhrase, if_pos hkind, phrasePart, if_pos (by rw [hkind]; exact List.mem_cons_self), hkind]
  · have hname : other.name ≠ kind.name := fun h => hkind (PhraseKind.name_injective h)
    rw [setPhrase, if_neg hkind, phrasePart, phrasePart]
    simp only [List.mem_cons, hname, false_or]

/-- The phrases of a language are read from every draft that gives them. -/
theorem decode_isRecord_phrases {phrases : PhraseKind → PhraseTemplate} {draft : Draft}
    (h : IsRecord (phraseForms phrases) draft) (hcomplete : draft.isComplete = true) :
    phraseFields.decode [] (fun _ => {}) draft = .ok phrases := by
  refine (builds_phrases phrases).decode ?_ h hcomplete
  intro read hread
  funext kind
  exact read_or_default (hread _ (List.mem_map_of_mem kind.mem_all))

theorem WordList.name_injective : Function.Injective WordList.name := by
  intro list other h
  cases list <;> cases other <;> first | rfl | exact absurd h (by decide)

theorem WordList.mem_all (list : WordList) : list ∈ WordList.all := by
  cases list <;> decide

/-- A word list bears none of the other names. -/
theorem WordList.name_ne (list : WordList) :
    list.name ≠ "code" ∧ list.name ≠ "name" ∧ list.name ≠ "decimal_separator" ∧
      list.name ≠ "numbers" ∧ list.name ≠ "phrases" := by
  cases list <;> decide

/-! ## Number words -/

namespace LanguagePack

/-- A new number word is put among the others. -/
theorem insertNumber_perm {word digits : String} {numbers : List (String × String)}
    (h : word ∉ numbers.map Prod.fst) :
    (insertNumber word digits numbers).Perm ((word, digits) :: numbers) := by
  induction numbers with
  | nil => exact List.Perm.refl _
  | cons number rest ih =>
    obtain ⟨other, value⟩ := number
    rw [List.map_cons, List.mem_cons, not_or] at h
    rw [insertNumber, if_neg h.1]
    split_ifs with hlt
    · exact List.Perm.refl _
    · exact ((ih h.2).cons _).trans (List.Perm.swap _ _ _)

/-- Number words in ascending order stay so when one is put in its place. -/
theorem pairwise_insertNumber {word digits : String} {numbers : List (String × String)}
    (h : numbers.Pairwise (·.1 < ·.1)) (hnew : word ∉ numbers.map Prod.fst) :
    (insertNumber word digits numbers).Pairwise (·.1 < ·.1) := by
  induction numbers with
  | nil => exact List.pairwise_singleton _ _
  | cons number rest ih =>
    obtain ⟨other, value⟩ := number
    obtain ⟨hfirst, hrest⟩ := List.pairwise_cons.mp h
    rw [List.map_cons, List.mem_cons, not_or] at hnew
    rw [insertNumber, if_neg hnew.1]
    split_ifs with hlt
    · refine List.pairwise_cons.mpr ⟨?_, h⟩
      exact List.forall_mem_cons.mpr
        ⟨hlt, fun later hlater => String.lt_trans hlt (hfirst later hlater)⟩
    · refine List.pairwise_cons.mpr ⟨?_, ih hrest hnew.2⟩
      intro later hlater
      rcases List.mem_cons.mp ((insertNumber_perm hnew.2).mem_iff.mp hlater) with rfl | hlater
      · exact lt_of_le_of_ne (not_lt.mp hlt) (Ne.symm hnew.1)
      · exact hfirst later hlater

/-- Number words of different spellings are put in order, none of them lost. -/
theorem foldl_insertNumber {given sorted : List (String × String)}
    (h : sorted.Pairwise (·.1 < ·.1)) (hdistinct : ((given ++ sorted).map Prod.fst).Nodup) :
    let numbers := given.foldl (fun sorted (word, digits) => insertNumber word digits sorted) sorted
    numbers.Perm (given ++ sorted) ∧ numbers.Pairwise (·.1 < ·.1) := by
  induction given generalizing sorted with
  | nil => exact ⟨List.Perm.refl _, h⟩
  | cons number rest ih =>
    obtain ⟨word, digits⟩ := number
    rw [List.cons_append, List.map_cons, List.nodup_cons, List.map_append, List.mem_append,
      not_or, ← List.map_append] at hdistinct
    obtain ⟨⟨hrest, hnew⟩, hdistinct⟩ := hdistinct
    -- what is put in its place is what stands in front of the rest
    have hperm : (rest ++ insertNumber word digits sorted).Perm ((word, digits) :: (rest ++ sorted)) :=
      ((insertNumber_perm hnew).append_left rest).trans List.perm_middle
    have hsorted : (insertNumber word digits sorted).Pairwise (·.1 < ·.1) :=
      pairwise_insertNumber h hnew
    have hstep := ih hsorted ?_
    · exact ⟨hstep.1.trans hperm, hstep.2⟩
    · rw [(hperm.map Prod.fst).nodup_iff, List.map_cons, List.nodup_cons, List.map_append,
        List.mem_append, not_or, ← List.map_append]
      exact ⟨⟨hrest, hnew⟩, hdistinct⟩

/-- Number words in ascending order are what comes of them in any order. -/
theorem sortNumbers_of_perm {given numbers : List (String × String)} (h : given.Perm numbers)
    (hsorted : numbers.Pairwise (·.1 < ·.1)) : sortNumbers given = numbers := by
  have hdistinct : ((given ++ []).map Prod.fst).Nodup := by
    rw [List.append_nil, (h.map Prod.fst).nodup_iff]
    exact List.pairwise_map.mpr (hsorted.imp fun hlt => ne_of_lt hlt)
  obtain ⟨hperm, hpairwise⟩ := foldl_insertNumber List.Pairwise.nil hdistinct
  rw [List.append_nil] at hperm
  refine (hperm.trans h).eq_of_pairwise ?_ hpairwise hsorted
  exact fun a b _ _ hab hba => absurd (String.lt_trans hab hba) (String.lt_irrefl a.1)

/-! ## Packs -/

/-- The drafts that give a decimal mark: its name, or a record with its name and null. -/
def IsMark (mark : DecimalMark) (draft : Draft) : Prop :=
  draft = .text (some mark.name) ∨ draft = .record [(some mark.name, .null)] true

/-- The drafts that give number words: they may stand in any order. -/
def AreNumbers (numbers : List (String × String)) (draft : Draft) : Prop :=
  ∃ given : List (String × String), given.Perm numbers ∧ draft = Draft.ofTextFields given

/-- The fields of a pack, as they are given. -/
def forms (pack : LanguagePack) : List FieldForm :=
  [⟨"code", (· = .text (some pack.code)), pack.code = ""⟩,
    ⟨"name", (· = .text (some pack.name)), pack.name = ""⟩,
    ⟨"decimal_separator", IsMark pack.decimalMark, pack.decimalMark = .period⟩,
    ⟨"numbers", AreNumbers pack.numbers, pack.numbers = []⟩] ++
  WordList.all.map (fun list =>
    ⟨list.name, (· = Draft.ofTexts (pack.words list)), pack.words list = []⟩) ++
  [⟨"phrases", IsRecord (phraseForms pack.phrases), pack.phrases = fun _ => {}⟩]

/-- A pack with those of its fields that were read. -/
def part (pack : LanguagePack) (read : List String) : LanguagePack where
  code := if "code" ∈ read then pack.code else ""
  name := if "name" ∈ read then pack.name else ""
  decimalMark := if "decimal_separator" ∈ read then pack.decimalMark else .period
  numbers := if "numbers" ∈ read then pack.numbers else []
  words := fun list => if list.name ∈ read then pack.words list else []
  phrases := if "phrases" ∈ read then pack.phrases else fun _ => {}

theorem decode_isMark {mark : DecimalMark} {draft : Draft} (h : IsMark mark draft) :
    DecimalMark.decode draft = .ok mark := by
  rcases h with rfl | rfl <;> cases mark <;> rfl

/-- A word list is put into its place. -/
theorem part_wordList (pack : LanguagePack) (list : WordList) (read : List String) :
    ({ pack.part read with
        words := fun other => if other = list then pack.words list else (pack.part read).words other }
      : LanguagePack) = pack.part (list.name :: read) := by
  obtain ⟨hcode, hname, hmark, hnumbers, hphrases⟩ := list.name_ne
  have hwords : (fun other => if other = list then pack.words list else (pack.part read).words other) =
      (pack.part (list.name :: read)).words := by
    funext other
    by_cases hlist : other = list
    · subst hlist
      simp only [if_true, part, List.mem_cons_self]
    · have hother : other.name ≠ list.name := fun h => hlist (WordList.name_injective h)
      simp only [if_neg hlist, part, List.mem_cons, hother, false_or]
  rw [hwords]
  simp only [part, List.mem_cons, hcode.symm, hname.symm, hmark.symm, hnumbers.symm, hphrases.symm,
    false_or]

theorem builds {pack : LanguagePack} (hsorted : pack.numbers.Pairwise (·.1 < ·.1)) :
    Fields.Builds fields pack.forms pack.part := by
  have hwords : Fields.Builds (WordList.all.map wordField) (WordList.all.map (fun list =>
      ⟨list.name, (· = Draft.ofTexts (pack.words list)), pack.words list = []⟩)) pack.part := by
    refine forall₂_map_map fun list _ => ⟨rfl, ?_⟩
    rintro read draft - rfl
    simp only [wordField, asTexts_ofTexts]
    exact congrArg Except.ok (pack.part_wordList list read)
  refine List.rel_append (List.rel_append (.cons ⟨rfl, ?code⟩ (.cons ⟨rfl, ?name⟩
    (.cons ⟨rfl, ?mark⟩ (.cons ⟨rfl, ?numbers⟩ .nil)))) hwords) (.cons ⟨rfl, ?phrases⟩ .nil)
  case code =>
    rintro read draft - rfl
    simp [Draft.asText, part, (WordList.name_ne _).1]
  case name =>
    rintro read draft - rfl
    simp [Draft.asText, part, (WordList.name_ne _).2.1]
  case mark =>
    intro read draft _ hdraft
    simp [decode_isMark hdraft, part, (WordList.name_ne _).2.2.1]
  case numbers =>
    rintro read draft - ⟨given, hgiven, rfl⟩
    simp [asTextFields_ofTextFields, sortNumbers_of_perm hgiven hsorted, part,
      (WordList.name_ne _).2.2.2.1]
  case phrases =>
    intro read draft hcomplete hdraft
    simp [decode_isRecord_phrases hdraft hcomplete, part, (WordList.name_ne _).2.2.2.2]

/-- A pack of which every field was read or holds its default is read in full. -/
theorem part_eq {pack : LanguagePack} {read : List String}
    (h : ∀ form ∈ pack.forms, form.name ∈ read ∨ form.isDefault) : pack.part read = pack := by
  obtain ⟨hfront, hphrases⟩ := List.forall_mem_append.mp h
  obtain ⟨hown, hwords⟩ := List.forall_mem_append.mp hfront
  obtain ⟨hcode, hown⟩ := List.forall_mem_cons.mp hown
  obtain ⟨hname, hown⟩ := List.forall_mem_cons.mp hown
  obtain ⟨hmark, hown⟩ := List.forall_mem_cons.mp hown
  obtain ⟨hnumbers, -⟩ := List.forall_mem_cons.mp hown
  obtain ⟨hphrases, -⟩ := List.forall_mem_cons.mp hphrases
  have hlists : (fun list => if list.name ∈ read then pack.words list else []) = pack.words :=
    funext fun list => read_or_default (hwords _ (List.mem_map_of_mem list.mem_all))
  rw [part, read_or_default hcode, read_or_default hname, read_or_default hmark, read_or_default hnumbers,
    hlists, read_or_default hphrases]

/-- A valid pack is read from every text that spells a draft that gives it. -/
theorem ofText_spelled {pack : LanguagePack} (hvalid : pack.fault? = none)
    (hsorted : pack.numbers.Pairwise (·.1 < ·.1)) {draft : Draft}
    (hdraft : IsRecord pack.forms draft) {text : String} (htext : SpellsAll draft text.toList) :
    ofText text = .ok pack := by
  obtain ⟨rest, hread, hends⟩ := read_spelled htext
  obtain ⟨_, _, _, _, _, _, hspells⟩ := htext
  have hdecode : fields.decode [] {} draft = .ok pack :=
    (builds hsorted).decode (fun _ => part_eq) hdraft hspells.isComplete
  have hpack : ofText? text = .ok pack := by
    simp only [ofText?, decodeText, hread, hdecode]
    simp only [bind, Except.bind, hends, if_true]
    rfl
  simp only [ofText, hpack, hvalid]

/-! ## The written record -/

theorem toDraft_texts (texts : List String) : (Json.texts texts).toDraft = Draft.ofTexts texts := by
  rw [Json.texts, toDraft, toDrafts_eq_map, List.map_map, Draft.ofTexts]
  exact congrArg (Draft.list · true) (List.map_congr_left fun s _ => by rw [Function.comp, toDraft])

theorem isRecord_phrase (t : PhraseTemplate) : IsRecord t.forms t.toJson.toDraft :=
  isRecord_record (show ["verbs", "connectives"].Nodup by decide)
    (.cons ⟨rfl, toDraft_texts _⟩ (.cons ⟨rfl, toDraft_texts _⟩ .nil))

/-- The fields of a pack are written in ways to give them. -/
theorem writes_jsonFields (pack : LanguagePack) :
    List.Forall₂ Writes pack.forms pack.jsonFields := by
  have hphrases : IsRecord (phraseForms pack.phrases) (Json.record (PhraseKind.all.map fun kind =>
      (kind.name, (pack.phrases kind).toJson))).toDraft := by
    refine isRecord_record (show (PhraseKind.all.map PhraseKind.name).Nodup by decide) ?_
    exact forall₂_map_map fun kind _ => ⟨rfl, isRecord_phrase _⟩
  have hnumbers : AreNumbers pack.numbers (Json.record (pack.numbers.map fun (word, digits) =>
      (word, .text digits))).toDraft := by
    refine ⟨pack.numbers, List.Perm.refl _, ?_⟩
    rw [toDraft, toFieldDrafts_eq_map, List.map_map, Draft.ofTextFields]
    exact congrArg (Draft.record · true)
      (List.map_congr_left fun number _ => by simp only [Function.comp, toDraft])
  have hwords : List.Forall₂ Writes (WordList.all.map fun list =>
      (⟨list.name, (· = Draft.ofTexts (pack.words list)), pack.words list = []⟩ : FieldForm))
      (WordList.all.map fun list => (list.name, Json.texts (pack.words list))) :=
    forall₂_map_map fun list _ => ⟨rfl, toDraft_texts _⟩
  have htext (s : String) : (Json.text s).toDraft = .text (some s) := by rw [toDraft]
  exact List.rel_append (List.rel_append (.cons ⟨rfl, htext _⟩ (.cons ⟨rfl, htext _⟩
    (.cons ⟨rfl, Or.inl (htext _)⟩ (.cons ⟨rfl, hnumbers⟩ .nil)))) hwords)
    (.cons ⟨rfl, hphrases⟩ .nil)

/-- A valid pack is read back from a record with its fields in any order, among fields of other names
and with or without those that hold their defaults; so it is from the record that it is written as, and
from the list of the fields of that. -/
theorem ofText_written {pack : LanguagePack} (hvalid : pack.fault? = none)
    (hsorted : pack.numbers.Pairwise (·.1 < ·.1)) :
    (∀ (draft : Draft) (text : String), IsRecord pack.forms draft → SpellsAll draft text.toList →
      ofText text = .ok pack) ∧
    ofText pack.toJson.render = .ok pack ∧
    ofText (Json.list (pack.jsonFields.map Prod.snd)).render = .ok pack := by
  have hspelled : ∀ (draft : Draft) (text : String), IsRecord pack.forms draft →
      SpellsAll draft text.toList → ofText text = .ok pack :=
    fun _ _ hdraft htext => ofText_spelled hvalid hsorted hdraft htext
  have hnames : (pack.forms.map FieldForm.name).Nodup := by
    show (["code", "name", "decimal_separator", "numbers"] ++ WordList.all.map WordList.name ++
      ["phrases"]).Nodup
    decide
  have hwrites := pack.writes_jsonFields
  exact ⟨hspelled, hspelled _ _ (isRecord_record hnames hwrites) (spellsAll_render _),
    hspelled _ _ (isRecord_list hwrites) (spellsAll_render _)⟩

/-- Most fields left out, the others in no order behind a field that packs do not have, and one letter
escaped. -/
theorem ofText_written_shuffled :
    let pack : LanguagePack :=
      { code := "xx", numbers := [("eins", "1"), ("zwei", "2")],
        words := fun list => if list = .addition then ["plus"] else [] }
    pack.fault? = none ∧ pack.numbers.Pairwise (·.1 < ·.1) ∧
      ofText ("\x7b\"note\":7,\"addition\":[\"pl\\u0075s\"]," ++
        "\"numbers\":\x7b\"zwei\":\"2\",\"eins\":\"1\"\x7d,\"code\":\"xx\"\x7d") = .ok pack := by
  intro pack
  have hvalid : pack.fault? = none := by decide
  have hsorted : pack.numbers.Pairwise (·.1 < ·.1) := by decide
  have hplus : SpellsUnits ("plus".toList.map .whole) "pl\\u0075s".toList := by
    refine ⟨[['p'], ['l'], ['\\', 'u', '0', '0', '7', '5'], ['s']], ?_, by decide⟩
    have hplain (c : Char) (h : c ≠ '"' ∧ c ≠ '\\' ∧ 32 ≤ c.toNat) : SpellsUnit (.whole c) [c] :=
      .plain h.1 h.2.1 h.2.2
    have hzero : hexValue? '0' = some 0 := by decide
    exact .cons (hplain _ (by decide)) (.cons (hplain _ (by decide))
      (.cons (.hex hzero hzero (k := 7) (l := 5) (by decide) (by decide))
        (.cons (hplain _ (by decide)) .nil)))
  have haddition : Spells (Draft.ofTexts ["plus"]) "[\"pl\\u0075s\"]".toList :=
    ⟨rfl, _, by decide, spellsItems_single ⟨_, _, hplus, rfl, by decide⟩⟩
  have hnumbers : Spells (Draft.ofTextFields [("zwei", "2"), ("eins", "1")])
      "\x7b\"zwei\":\"2\",\"eins\":\"1\"\x7d".toList :=
    spells_write (.record [("zwei", .text "2"), ("eins", .text "1")])
  have hfields := spellsFields_cons (spellsQuoted_quote "note") (spells_write (.number 7))
    (List.cons_ne_nil _ _) (spellsFields_cons (spellsQuoted_quote "addition") haddition
      (List.cons_ne_nil _ _) (spellsFields_cons (spellsQuoted_quote "numbers") hnumbers
        (List.cons_ne_nil _ _) (spellsFields_single (spellsQuoted_quote "code")
          (spells_write (.text "xx")))))
  have hdraft : IsRecord pack.forms (.record ([("note", Draft.number true),
      ("addition", Draft.ofTexts ["plus"]),
      ("numbers", Draft.ofTextFields [("zwei", "2"), ("eins", "1")]),
      ("code", Draft.text (some "xx"))].map fun field => (some field.1, field.2)) true) := by
    have hsame : AreNumbers pack.numbers (Draft.ofTextFields [("zwei", "2"), ("eins", "1")]) :=
      ⟨_, List.Perm.swap _ _ _, rfl⟩
    refine .named (by decide) ?_ ?_
    · simpa [forms, WordList.all, WordList.name, pack] using hsame
    · simp [forms, WordList.all, WordList.name, pack]
  exact ⟨hvalid, hsorted, (ofText_written hvalid hsorted).1 _ _ hdraft
    ⟨[], _, [], by decide, isSpace_nil, isSpace_nil, rfl, _, rfl, hfields⟩⟩

end LanguagePack

end CalcSpeech
