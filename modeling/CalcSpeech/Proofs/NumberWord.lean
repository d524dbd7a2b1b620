import CalcSpeech.Proofs.Language.Apart
import CalcSpeech.Proofs.Lexicon
import CalcSpeech.Proofs.Vocabulary.Found

/-!
# Texts without number words

Where no number word begins, only protected phrases are found, and these stay as they are
(`rewriteRun_eq_self`). A number word inside a protected phrase is not looked at either
(`rewriteRun_protected`).
-/

namespace CalcSpeech.NumberWord

open Unicode Pattern Vocabulary Text

section Runs

variable {pack : LanguagePack} (h : pack.IsOrdinary)

/-- The number words of a pack. -/
def numberNames (pack : LanguagePack) : List String := pack.numbers.map (·.1)

theorem reads_protected {b : Option Char} {w a : List Char} {k : List (Nat × List Char)}
    (hr : (group 1 (Vocabulary.pattern (protectedPhrases pack))).Reads b w a k) :
    Finds (protectedPhrases pack) b w a ∧ k = [(1, w)] := by
  cases hr with
  | group hr =>
    obtain ⟨rfl, hfinds⟩ := reads_pattern.mp hr
    exact ⟨hfinds, rfl⟩

/-- What a run is read from: a protected phrase, or a row that begins with a number word. -/
theorem reads_runOf {b : Option Char} {w a : List Char} {k : List (Nat × List Char)}
    (hr : (runOf pack).Reads b w a k) :
    (Finds (protectedPhrases pack) b w a ∧ k = [(1, w)]) ∨
      (group 2 (runPattern (Vocabulary.pattern (numberNames pack))
        (pattern? (pack.words .numberConnectors)))).Reads b w a k := by
  cases hr with
  | left hr => exact Or.inl (reads_protected hr)
  | right hr => exact Or.inr hr

include h

theorem opensAt_numberRun :
    (group 2 (runPattern (Vocabulary.pattern (numberNames pack))
      (pattern? (pack.words .numberConnectors)))).OpensAt (Begins (numberNames pack)) :=
  (opensAt_pattern fun p hp => (h.numbers p hp).1).seq.group 2

theorem opensAt_runOf : (runOf pack).OpensAt fun b rest =>
    Begins (protectedPhrases pack) b rest ∨ Begins (numberNames pack) b rest := by
  apply OpensAt.alt
  · exact ((opensAt_pattern fun p hp => (h.protectedPhrases hp).1).group 1).mono fun _ _ => Or.inl
  · exact (opensAt_numberRun h).mono fun _ _ => Or.inr

variable (reader : Reader)

omit h in
/-- Where no number word is found nothing is rewritten. -/
theorem rewriteRun_of_not_found {b : Option Char} {text : List Char}
    (hno : Nowhere (FoundAt (numberNames pack)) b text []) :
    (runOf pack).rewriteAfter reader.rewriteRun b text = text := by
  have hopens : (group 2 (runPattern (Vocabulary.pattern (numberNames pack))
      (pattern? (pack.words .numberConnectors)))).OpensAt (FoundAt (numberNames pack)) :=
    (opensAt_found _).seq.group 2
  apply rewriteAfter_eq_self
  intro v w a k htext hne hread
  rcases reads_runOf hread with ⟨-, rfl⟩ | hrun
  · rfl
  · obtain ⟨c, w, rfl⟩ := List.exists_cons_of_ne_nil hne
    have hfound := hopens _ _ _ _ hrun
    have hplace := hno v c (w ++ a) htext
    rw [List.append_nil] at hplace
    exact absurd hfound hplace

/-- Where no number word begins nothing is rewritten. -/
theorem rewriteRun_eq_self {b : Option Char} {text : List Char}
    (hno : Nowhere (Begins (numberNames pack)) b text []) :
    (runOf pack).rewriteAfter reader.rewriteRun b text = text :=
  rewriteRun_of_not_found reader
    (hno.mono fun _ _ => begins_of_foundAt fun p hp => (h.numbers p hp).1)

end Runs

/-! ## Protected phrases -/

section Protected

variable {pack : LanguagePack}

/-- A phrase of more than one word that no number is looked for in. -/
theorem mem_protectedPhrases {p : String} (hspoken : IsSpoken p.toList)
    (hp : p ∈ pack.words .percentage ∨ p ∈ scaleWords.map (·.1))
    (hwords : words p.toList ≠ [p.toList]) : p ∈ protectedPhrases pack := by
  have hspace : ' ' ∈ p.toList := by
    rcases hspoken.words_cases with hone | ⟨rest, hmore⟩
    · exact absurd hone hwords
    · rw [hmore]
      simp
  have hsolid {side : Option Char} (hside : side.any isSmallLatin = true) :
      side.any isBlank = false := by
    cases side with
    | none => rfl
    | some c => exact isBlank_of_isSmallLatin hside
  refine List.mem_filter.mpr ⟨?_, ?_⟩
  · rcases hp with hpercent | hscale
    · simp [hpercent]
    · refine List.mem_append_right _ (List.mem_filter.mpr ⟨hscale, ?_⟩)
      simpa using hspace
  · rw [trim_of_ends (hsolid hspoken.head) (hsolid hspoken.last), List.any_eq_true]
    exact ⟨' ', hspace, by decide⟩

variable (hapart : pack.spelling.IsApart)

include hapart

theorem mem_spelling_numbers {q : String} (hq : q ∈ numberNames pack) :
    q.toList ∈ pack.spelling.numbers ∧ IsSpoken q.toList := by
  have hmem : q.toList ∈ pack.spelling.numbers := List.mem_map_of_mem hq
  exact ⟨hmem, hapart.spoken_number hmem⟩

theorem mem_spelling_guarded {q : String} (hq : q ∈ protectedPhrases pack) :
    q.toList ∈ pack.spelling.guarded ∧ IsSpoken q.toList := by
  have hmem : q.toList ∈ pack.spelling.guarded := by
    obtain ⟨hmem, -⟩ := List.mem_filter.mp hq
    rcases List.mem_append.mp hmem with hpercent | hscale
    · rcases List.mem_append.mp hpercent with hof | hword
      · exact List.mem_append_left _ (List.mem_append_left _ (List.mem_map_of_mem hof))
      · exact List.mem_append_left _ (List.mem_append_right _ (List.mem_map_of_mem hword))
    · exact List.mem_append_right _ (List.mem_map_of_mem (List.mem_filter.mp hscale).1)
  exact ⟨hmem, hapart.spoken_guarded hmem⟩

/-- A protected phrase is passed over, with the number words in it. -/
theorem rewriteRun_protected (h : pack.IsOrdinary) (reader : Reader) {p : String}
    (hp : p ∈ protectedPhrases pack)
    (hlong : ∀ q ∈ pack.spelling.guarded, firstWord q = firstWord p.toList → p.toList <+: q)
    {b : Option Char} {u a : List Char}
    (hbefore : Nowhere (fun b rest => Begins (protectedPhrases pack) b rest ∨
      Begins (numberNames pack) b rest) b u (p.toList ++ a))
    (hu : (behind b u).any isWordCharacter = false) (ha : a.head?.any isWordCharacter = false)
    (hbehind : Nowhere (Begins (numberNames pack)) (behind (behind b u) p.toList) a []) :
    (runOf pack).rewriteAfter reader.rewriteRun b (u ++ (p.toList ++ a)) =
      u ++ (p.toList ++ a) := by
  have hproper : ∀ q ∈ protectedPhrases pack, IsProper q.toList :=
    fun q hq => (h.protectedPhrases hq).1
  have hspoken := (mem_spelling_guarded hapart hp).2
  have hfits := fits_self (Or.inl hspoken) hu ha
  have hfinds : Finds (protectedPhrases pack) (behind b u) p.toList a :=
    ⟨p.toList, (mem_entries_of_proper hproper).mpr ⟨p, hp, rfl⟩, hfits⟩
  rw [rewriteAfter_quiet _ ((opensAt_runOf h).quiet hbefore)]
  cases hm : (group 1 (Vocabulary.pattern (protectedPhrases pack))).matchAt? (behind b u)
      (p.toList ++ a) with
  | none =>
    -- the phrase itself could be read
    have hread := matchAt?_eq_none_iff.mp hm p.toList a _ rfl
      (.group (reads_pattern.mpr ⟨rfl, hfinds⟩))
    exact absurd hread (ne_nil_of_finds hfinds)
  | some m =>
    have hrun : (runOf pack).matchAt? (behind b u) (p.toList ++ a) = some m := by
      rw [runOf, matchAt?_alt, hm, Option.some_or]
    obtain ⟨-, a', hw, hread⟩ := reads_of_matchAt? hm
    obtain ⟨⟨e, he, hfound⟩, hgroups⟩ := reads_protected hread
    have hself : reader.rewriteRun m = m.text := by
      rw [Reader.rewriteRun, Match.group?, hgroups]
      rfl
    -- the phrase found begins with the same word, so that it goes on behind this one at most
    obtain ⟨q, hq, rfl⟩ := (mem_entries_of_proper hproper).mp he
    obtain ⟨hguard, hspoken'⟩ := mem_spelling_guarded hapart hq
    have hword := word_of_fits hspoken hfits
    have hword' := word_of_fits hspoken' hfound
    rw [← hw] at hword'
    obtain ⟨f, hf⟩ := hlong _ hguard (hword'.unique hspoken'.isWord hspoken.isWord hword)
    obtain ⟨x, y, hxy, hx, -⟩ := spells_append.mp (hf.symm ▸ hfound.spells)
    rw [hxy, List.append_assoc] at hw
    obtain rfl := eq_of_spells hx hw (hspoken.isTidyAfter false)
    obtain rfl := List.append_cancel_left hw
    rw [nowhere_append] at hbehind
    rw [← List.append_assoc, ← hxy] at hrun ⊢
    rw [rewriteAfter_found _ hrun, hself, hxy, behind_append, rewriteRun_eq_self h reader hbehind.2]

/-- A row of tokens with a protected phrase in it stays as it is, if no number word and no protected
phrase begins in front of the phrase, and no number word behind it. -/
theorem rewrite_protectedRow (h : pack.IsOrdinary) {reader : Option Reader}
    (hreader : Reader.ofPack? pack = .ok reader) {p : String} (hp : p ∈ protectedPhrases pack)
    (hlong : ∀ q ∈ pack.spelling.guarded, firstWord q = firstWord p.toList → p.toList <+: q)
    {front back : List (List Char)} (hfront : ∀ t ∈ front, IsToken t)
    (hback : ∀ t ∈ back, IsToken t)
    (hbefore : ∀ q ∈ numberNames pack ++ protectedPhrases pack, firstWord q.toList ∉ front)
    (hbehind : ∀ q ∈ numberNames pack, firstWord q.toList ∉ back) :
    NumberWord.rewrite reader (join [' '] (front ++ (words p.toList ++ back))) =
      join [' '] (front ++ (words p.toList ++ back)) := by
  have hspoken := (mem_spelling_guarded hapart hp).2
  have hnumbers : ∀ q ∈ numberNames pack, IsSpoken q.toList :=
    fun q hq => (mem_spelling_numbers hapart hq).2
  have hguarded : ∀ q ∈ protectedPhrases pack, IsSpoken q.toList :=
    fun q hq => (mem_spelling_guarded hapart hq).2
  have hprotected : ∀ q ∈ protectedPhrases pack, firstWord q.toList ∉ front :=
    fun q hq => hbefore q (List.mem_append_right _ hq)
  have hnumber : ∀ q ∈ numberNames pack, firstWord q.toList ∉ front :=
    fun q hq => hbefore q (List.mem_append_left _ hq)
  apply NumberWord.rewrite_eq_self hreader
  intro reader
  rw [join_around hspoken.1, hspoken.2.1]
  exact rewriteRun_protected hapart h reader hp hlong
    ((nowhere_begins_frontText hguarded hfront hprotected).or
      (nowhere_begins_frontText hnumbers hfront hnumber))
    (behind_frontText rfl) (isTail_backText.head (by decide))
    (nowhere_begins_backText hnumbers hback hbehind)

end Protected

end CalcSpeech.NumberWord
