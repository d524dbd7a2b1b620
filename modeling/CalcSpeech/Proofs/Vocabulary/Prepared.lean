import CalcSpeech.Proofs.Lexicon
import CalcSpeech.Proofs.Vocabulary.Kept
import CalcSpeech.Transcript

/-!
# What a pack lists can be spoken

The words of a pack are kept in lowercase with their gaps collapsed, while a transcript is also
composed, and loses its dashes and the hyphens between letters. Where the two preparations differ
by blanks only, the pattern made of a list finds each entry of it in the entry's own transcript, as
the one match and over the whole length (`matches_prepared`).
-/

namespace CalcSpeech

open Unicode Text Pattern Vocabulary

namespace Vocabulary

/-- Where an entry begins or ends in a letter or a number, that character holds words together. -/
def HasWordEdges (e : List Char) : Prop :=
  ∀ c, e.head? = some c ∨ e.getLast? = some c → isAlphanumeric c = true →
    isWordCharacter c = true

/-- An entry begins with a connector and, as a word, another entry of some words. -/
def BeginsConnected (connectors words : List String) (e : List Char) : Prop :=
  ∃ c ∈ entries connectors, ∃ y ∈ entries words, ∃ rest, rest ≠ [] ∧
    e = c ++ ' ' :: (y ++ rest) ∧ Fits y (some ' ') y rest

theorem isWordCharacter_of_blanks {text : List Char} (h : ∀ c ∈ text, isBlank c = true) :
    text.head?.any isWordCharacter = false := by
  cases text with
  | nil => rfl
  | cons c rest => exact isWordCharacter_of_isBlank (h c List.mem_cons_self)

theorem isWordCharacter_behind_blanks {lead : List Char} (h : ∀ c ∈ lead, isBlank c = true) :
    (behind none lead).any isWordCharacter = false :=
  any_behind rfl fun c hc => isWordCharacter_of_isBlank (h c hc)

/-- Where a text spells a tidy entry, a word goes on at its first character if one does in the
entry. -/
theorem Spells.any_head {e w : List Char} (h : Spells e w) :
    w.head?.any isWordCharacter = e.head?.any isWordCharacter := by
  cases h with
  | nil => rfl
  | @gap g e w hne hblank hw =>
    obtain ⟨c, g, rfl⟩ := List.exists_cons_of_ne_nil hne
    exact (isWordCharacter_of_isBlank (hblank c List.mem_cons_self)).trans behind_space.symm
  | own => rfl

section Spoken

variable {e w trail : List Char} (hspells : Spells e w) (htidy : isTidyAfter false e = true)
  (htrail : ∀ c ∈ trail, isBlank c = true)

include hspells htidy htrail

/-- A text that spells an entry between blanks fits it. -/
theorem fits_of_spells {b : Option Char} (hedges : HasWordEdges e)
    (hb : b.any isWordCharacter = false) : Fits e b w trail := by
  obtain ⟨c, hc, hhead, -⟩ := exists_head_of_spells hspells htidy
  obtain ⟨d, hd, hlast, -⟩ := exists_last_of_spells hspells htidy
  refine ⟨hspells, ?_, ?_⟩
  · intro hside
    rw [hc] at hside
    rw [List.head?_append, hhead, isWordBoundary, hb, Option.some_or, Option.any_some,
      hedges c (Or.inl hc) hside]
    rfl
  · intro hside
    have hne := ne_nil_of_spells hspells htidy
    rw [hd] at hside
    rw [behind_of_ne_nil b hne, ← List.getLast?_eq_some_getLast hne, hlast, isWordBoundary,
      isWordCharacter_of_blanks htrail, Option.any_some, hedges d (Or.inr hd) hside]
    rfl

/-- What is read at the beginning of a text that spells an entry begins the entry. -/
theorem exists_of_reading {f w' a : List Char} (hw : w ++ trail = w' ++ a) (hf : Spells f w')
    (hftidy : isTidyAfter false f = true) :
    ∃ z v, e = f ++ z ∧ w = w' ++ v ∧ a = v ++ trail ∧ Spells z v := by
  obtain ⟨c, -, hlast, hsolid⟩ := exists_last_of_spells hf hftidy
  have hsplit : ∃ v, w = w' ++ v ∧ a = v ++ trail := by
    rcases List.append_eq_append_iff.mp hw with ⟨x, rfl, hx⟩ | ⟨v, hv, ha⟩
    · by_cases hne : x = []
      · exact ⟨[], by simp [hne], by simp [hx, hne]⟩
      · -- the reading would end in a blank
        rw [List.getLast?_append_of_ne_nil _ hne] at hlast
        have hblank := htrail c (by rw [hx]; simp [List.mem_of_getLast? hlast])
        rw [hsolid] at hblank
        exact absurd hblank Bool.false_ne_true
    · exact ⟨v, hv, ha⟩
  obtain ⟨v, rfl, ha⟩ := hsplit
  obtain ⟨z, hz, hv⟩ := spells_prefix hf hspells hftidy htidy
  exact ⟨z, v, hz, rfl, ha, hv⟩

/-- In the spelling of an entry a vocabulary prefers the entry. -/
theorem prefers_of_spells {phrases : List String} (he : e ∈ entries phrases) {b : Option Char}
    (hedges : HasWordEdges e) (hb : b.any isWordCharacter = false) :
    (pattern phrases).Prefers b w trail [] := by
  apply prefers_of_first
  rintro s rfl hs
  refine first_longest he hs (fits_of_spells hspells htidy htrail hedges hb) ?_
  intro f hf hlength w' a hw hfits
  obtain ⟨z, v, rfl, hv, -, hz⟩ :=
    exists_of_reading hspells htidy htrail hw hfits.spells (tidy_of_mem hf)
  rw [List.length_append] at hlength
  obtain rfl : z = [] := List.length_eq_zero_iff.mp (by omega)
  cases hz
  exact ⟨(List.append_nil f).symm, by rw [hv, List.append_nil]⟩

end Spoken

/-- Where an entry fits in what spells a text it fits in the text itself. -/
theorem fits_of_spelling {y u z v a : List Char} {b : Option Char} (h : Fits y b u (v ++ a))
    (hy : isTidyAfter false y = true) (hz : Spells z v) (hne : z ≠ [])
    (hb : b.any isWordCharacter = false) : Fits y (some ' ') y z := by
  obtain ⟨c, hc, hhead, -⟩ := exists_head_of_spells h.spells hy
  obtain ⟨d, hd, hlast, -⟩ := exists_last_of_spells h.spells hy
  have hbehind {w : List Char} (b : Option Char) (hw : w.getLast? = some d) :
      behind b w = some d := by
    have hnil : w ≠ [] := by
      rintro rfl
      cases hw
    rw [behind_of_ne_nil b hnil, ← List.getLast?_eq_some_getLast hnil, hw]
  have hnext : (v ++ a).head?.any isWordCharacter = z.head?.any isWordCharacter := by
    have hlength := hz.length_le
    obtain ⟨f, v, rfl⟩ := List.exists_cons_of_length_pos
      (Nat.lt_of_lt_of_le (List.length_pos_iff.mpr hne) hlength)
    exact hz.any_head
  refine ⟨spells_self y, ?_, ?_⟩
  · intro hside
    have hopens := h.opens hside
    rw [List.head?_append, hhead, isWordBoundary, hb] at hopens
    rwa [List.head?_append, hc, isWordBoundary, behind_space]
  · intro hside
    have hcloses := h.closes hside
    rw [hbehind b hlast, isWordBoundary, hnext] at hcloses
    rwa [hbehind (some ' ') hd, isWordBoundary]

/-- A vocabulary reads nothing that begins with a blank. -/
theorem opens_solid (phrases : List String) : (pattern phrases).Opens fun c => !isBlank c := by
  intro b w a k hr
  obtain ⟨-, e, he, hfits⟩ := reads_pattern.mp hr
  obtain ⟨c, -, hhead, hsolid⟩ := exists_head_of_spells hfits.spells (tidy_of_mem he)
  rw [List.head?_append, hhead, Option.some_or, Option.any_some, hsolid]
  rfl

end Vocabulary

namespace NumberWord

section Token

variable {words connectors : List String}

theorem opens_tokenPattern :
    (tokenPattern (pattern words) (pattern? connectors)).Opens fun c => !isBlank c := by
  have hword := (opens_solid words).group 2
  cases hconnector : pattern? connectors with
  | none => exact hword
  | some connector =>
    rw [eq_pattern_of_pattern? hconnector]
    intro b w a k hr
    cases hr with
    | @seq _ _ _ u v _ _ _ hfront hv =>
      rcases reads_optional.mp hfront with hfront | ⟨rfl, -⟩
      · rw [List.append_assoc]
        exact ((opens_solid connectors).group 1).seq b u (v ++ a) _ hfront
      · exact hword _ _ _ _ hv

variable {e w trail : List Char} (hspells : Spells e w) (htidy : isTidyAfter false e = true)
  (htrail : ∀ c ∈ trail, isBlank c = true) {b : Option Char}

include hspells htidy htrail

/-- A connector and a number word in the spelling of an entry are all of it, unless the entry goes
on behind them. -/
theorem eq_of_connected (hconnected : ¬ BeginsConnected connectors words e)
    {w' a : List Char} {k : List (Nat × List Char)} (hw : w ++ trail = w' ++ a)
    (hr : (seq (inOrder [group 1 (pattern connectors), gap]) (group 2 (pattern words))).Reads
      b w' a k) : w' = w := by
  cases hr with
  | @seq _ _ _ front u _ _ _ hfront hu =>
    obtain ⟨x, g, kx, kg, rfl, -, hx, hg⟩ := reads_inOrder_cons.mp hfront
    obtain ⟨hne, hblank, -⟩ := reads_gap.mp hg
    cases hx with
    | group hx =>
      cases hu with
      | group hu =>
        obtain ⟨-, c, hc, hfits⟩ := reads_pattern.mp hx
        obtain ⟨-, y, hy, hfits'⟩ := reads_pattern.mp hu
        have hctidy := tidy_of_mem hc
        have hytidy := tidy_of_mem hy
        have hspells' : Spells (c ++ ' ' :: y) (x ++ g ++ u) := by
          rw [List.append_assoc]
          exact spells_append.mpr ⟨x, g ++ u, rfl, hfits.spells, .gap hne hblank hfits'.spells⟩
        have htidy' : isTidyAfter false (c ++ ' ' :: y) = true := by
          rw [isTidyAfter_append hctidy, isTidyAfter, if_pos rfl, Bool.true_and, hytidy]
        -- the entry begins with connector, gap and number word; what is left is `z`
        obtain ⟨z, v, hz, hv, rfl, hzv⟩ :=
          exists_of_reading hspells htidy htrail hw hspells' htidy'
        by_cases hnil : z = []
        · subst hnil
          cases hzv
          rw [hv, List.append_nil]
        · have hbehind : (behind b (x ++ g)).any isWordCharacter = false := by
            rw [behind_append]
            exact any_behind_of_ne_nil _ hne fun d hd => isWordCharacter_of_isBlank (hblank d hd)
          exact absurd ⟨c, hc, y, hy, z, hnil, by simp [hz],
            fits_of_spelling hfits' hytidy hzv hnil hbehind⟩ hconnected

/-- In the spelling of a number word the pattern for a token takes all of it. -/
theorem exists_matchAt?_token (he : e ∈ entries words) (hedges : HasWordEdges e)
    (hb : b.any isWordCharacter = false) (hconnected : ¬ BeginsConnected connectors words e) :
    ∃ m, (tokenPattern (pattern words) (pattern? connectors)).matchAt? b (w ++ trail) = some m ∧
      m.text = w := by
  have hword := ((prefers_of_spells hspells htidy htrail he hedges hb).group 2).matchAt?_eq
    (ne_nil_of_spells hspells htidy)
  cases hconnector : pattern? connectors with
  | none => exact ⟨_, hword, rfl⟩
  | some connector =>
    rw [eq_pattern_of_pattern? hconnector]
    show ∃ m, (seq (optional (inOrder [group 1 (pattern connectors), gap]))
      (group 2 (pattern words))).matchAt? b (w ++ trail) = some m ∧ m.text = w
    rw [matchAt?_optional_seq, hword]
    cases hm : (seq (inOrder [group 1 (pattern connectors), gap])
        (group 2 (pattern words))).matchAt? b (w ++ trail) with
    | none => exact ⟨_, rfl, rfl⟩
    | some m =>
      obtain ⟨-, a, hw, hr⟩ := reads_of_matchAt? hm
      exact ⟨m, rfl, eq_of_connected hspells htidy htrail hconnected hw hr⟩

end Token

/-- A pack with number words has a reader, if none of them is too large. -/
theorem exists_reader {pack : LanguagePack} {reader : Option Reader}
    (h : Reader.ofPack? pack = .ok reader) {e : List Char}
    (he : e ∈ entries (pack.numbers.map (·.1))) : ∃ r, reader = some r := by
  unfold Reader.ofPack? at h
  rw [pattern?_of_entry he] at h
  cases hvalues : readValues pack.code pack.numbers with
  | error fault =>
    rw [hvalues] at h
    cases h
  | ok values =>
    rw [hvalues] at h
    simp only [bind, Except.bind, pure, Except.pure] at h
    exact ⟨_, (Except.ok.inj h).symm⟩

end NumberWord

/-- The vocabulary that a pack has a pattern for: its number words, or one of its word lists. -/
inductive VocabularyField where
  | numbers
  | words (list : WordList)

/-- The words of a pack in one field. -/
def LanguagePack.vocabulary (pack : LanguagePack) : VocabularyField → List String
  | .numbers => pack.numbers.map (·.1)
  | .words list => pack.words list

/-- The pattern for one of the words in a field, with the connector in front of a number word. -/
def Lexicon.matcher? (lexicon : Lexicon) : VocabularyField → Option Pattern
  | .numbers => lexicon.numberWords.map (·.token)
  | .words list => lexicon.operators.word list

/-- What a pack lists is found in its own transcript, as the one match and over the whole length. -/
theorem Lexicon.matches_prepared {pack : LanguagePack} {lexicon : Lexicon}
    (hlexicon : Lexicon.ofPack pack = .ok lexicon) {field : VocabularyField} {phrase : String}
    (hphrase : phrase ∈ pack.vocabulary field) (hblank : isAllBlank phrase.toList = false)
    (hprepared : collapse (Transcript.prepare phrase.toList) =
      collapse (lowercase phrase.toList))
    (hedges : HasWordEdges (entry phrase))
    (hconnected : field = .numbers → ¬ BeginsConnected (pack.words .numberConnectors)
      (pack.vocabulary field) (entry phrase)) :
    ∃ p, lexicon.matcher? field = some p ∧
      (p.matchesIn (Transcript.prepare phrase.toList)).map (·.text) =
        [trim (Transcript.prepare phrase.toList)] := by
  have hentry := entry_mem hphrase hblank
  have htidy := tidy_of_mem hentry
  obtain ⟨lead, w, trail, htext, hlead, htrail, hspells⟩ :=
    exists_spells_collapse (Transcript.prepare phrase.toList)
  rw [hprepared, ← lowercase_collapse] at hspells
  have htrim : trim (Transcript.prepare phrase.toList) = w := by
    obtain ⟨c, -, hhead, hc⟩ := exists_head_of_spells hspells htidy
    obtain ⟨d, -, hlast, hd⟩ := exists_last_of_spells hspells htidy
    rw [htext]
    exact trim_append hlead htrail (by rwa [hhead]) (by rwa [hlast])
  have hb := isWordCharacter_behind_blanks hlead
  -- the transcript is blanks around a spelling of the entry, which the matcher takes whole
  have hwhole : ∃ p, lexicon.matcher? field = some p ∧ (p.Opens fun c => !isBlank c) ∧
      ∃ m, p.matchAt? (behind none lead) (w ++ trail) = some m ∧ m.text = w := by
    have hof := Lexicon.isOf_of_ofPack hlexicon
    cases field with
    | numbers =>
      obtain ⟨reader, hreader⟩ := NumberWord.exists_reader hof.numberWords hentry
      have htoken := (NumberWord.reader_of_ofPack? (hreader ▸ hof.numberWords)).2.1
      refine ⟨reader.token, by rw [matcher?, hreader]; rfl, ?_⟩
      rw [htoken]
      exact ⟨NumberWord.opens_tokenPattern, NumberWord.exists_matchAt?_token hspells htidy htrail
        hentry hedges hb (hconnected rfl)⟩
    | words list =>
      refine ⟨pattern (pack.words list), ?_, opens_solid _, ?_⟩
      · rw [matcher?, hof.operators]
        exact pattern?_of_entry hentry
      · exact ⟨_, (prefers_of_spells hspells htidy htrail hentry hedges hb).matchAt?_eq
          (ne_nil_of_spells hspells htidy), rfl⟩
  obtain ⟨p, hp, hopens, m, hm, rfl⟩ := hwhole
  refine ⟨p, hp, ?_⟩
  rw [htrim, htext, matchesIn_eq_singleton hopens hlead htrail hm]
  rfl

/-- A pack in which one number word goes on behind a connector. -/
def connectedPack : LanguagePack where
  code := "xx"
  numbers := [("Twenty  AND five", "25"), ("five", "5"), ("twenty", "20")]
  words
    | .numberConnectors => ["and"]
    | _ => []

theorem matches_prepared_connected : ∃ lexicon p, Lexicon.ofPack connectedPack = .ok lexicon ∧
    lexicon.matcher? .numbers = some p ∧
    (p.matchesIn (Transcript.prepare "Twenty  AND five".toList)).map (·.text) =
      ["twenty  and five".toList] := by
  have hmem : "Twenty  AND five" ∈ connectedPack.vocabulary .numbers := by decide
  have hkept : entry "Twenty  AND five" = "twenty and five".toList := by decide
  have hconnectors : entries ["and"] = ["and".toList] := by decide
  have hlexicon : Lexicon.ofPack connectedPack = .ok _ := rfl
  obtain ⟨p, hp, hmatches⟩ := Lexicon.matches_prepared hlexicon hmem (by decide)
    (by decide)
    (by
      rw [hkept]
      rintro c (hc | hc) -
      · obtain rfl : 't' = c := by simpa using hc
        decide
      · obtain rfl : 'e' = c := by simpa using hc
        decide)
    (by
      rintro - ⟨c, hc, y, -, rest, -, he, -⟩
      obtain rfl := List.mem_singleton.mp (hconnectors ▸ hc)
      rw [hkept] at he
      exact absurd (List.cons.inj he).1 (by decide))
  refine ⟨_, p, hlexicon, hp, hmatches.trans ?_⟩
  decide

/-- A pack with words that are not found in their own transcripts, or not over the whole length. -/
def unspokenPack : LanguagePack where
  code := "xx"
  numbers := [("and one hundred", "100"), ("one", "1"), ("twenty-five", "25")]
  words
    | .numberConnectors => ["and"]
    | .addition => [" plus "]
    | .squared => ["²"]
    | _ => []

/-- A transcript loses the hyphen that the kept form has; a connector with a shorter number word is
read first; blanks at the ends are read by none; and no word begins or ends at the number `²`. -/
theorem unspoken_not_found : unspokenPack.fault? = none ∧
    ∃ lexicon token plus squared, Lexicon.ofPack unspokenPack = .ok lexicon ∧
      lexicon.matcher? .numbers = some token ∧
      lexicon.matcher? (.words .addition) = some plus ∧
      lexicon.matcher? (.words .squared) = some squared ∧
      token.matchesIn (Transcript.prepare "twenty-five".toList) = [] ∧
      (token.matchesIn (Transcript.prepare "and one hundred".toList)).map (·.text) =
        ["and one".toList] ∧
      (plus.matchesIn (Transcript.prepare " plus ".toList)).map (·.text) = ["plus".toList] ∧
      squared.matchesIn (Transcript.prepare "²".toList) = [] := by
  refine ⟨by decide, _, _, _, _, rfl, rfl, rfl, rfl, ?_, ?_, ?_, ?_⟩
  · decide
  · decide
  · decide
  · decide +kernel

end CalcSpeech
