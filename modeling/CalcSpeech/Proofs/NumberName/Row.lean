import CalcSpeech.Proofs.NumberName.Spelling
import CalcSpeech.Proofs.NumberWord
import CalcSpeech.Proofs.Pattern.Digits

/-!
# Rows of number words

A row of the parts of a name, with or without connectors, is one run of number words
(`matchAt?_run`). It is cut into its parts (`tokens?_row`), so that the run is written as the number
that the parts are the name of (`decode_row`).
-/

namespace CalcSpeech.NumberWord

open Unicode Pattern Vocabulary Text

/-! ## The words of English -/

theorem isOrdinary_english : english.IsOrdinary := isOrdinary_of_mem List.mem_cons_self

/-- The word of each part is a number word of its own. -/
theorem name_mem : ∀ p ∈ NamePart.all, p.name ∈ numberNames english := by decide +kernel

theorem distinct_names : AreDistinct (numberNames english) := by
  have h : ∀ p ∈ numberNames english, ∀ q ∈ numberNames english,
      firstWord p.toList = firstWord q.toList → p.toList = q.toList := by decide +kernel
  exact h

/-- A number word is one word and no other phrase begins with it. -/
theorem spelling_word : ∀ p ∈ NamePart.all, IsSpoken p.spelling ∧ firstWord p.spelling = p.spelling ∧
    ∀ q ∈ "and" :: protectedPhrases english, firstWord q.toList ≠ p.spelling := by decide +kernel

/-- The pattern for the number words. -/
def word : Pattern := pattern (numberNames english)

/-- The pattern for the connector. -/
def connector : Pattern := pattern ["and"]

theorem connector_eq : pattern? (english.words .numberConnectors) = some connector := by
  have hmem : "and" ∈ english.words .numberConnectors := List.mem_cons_self
  exact pattern?_of_mem (fun p hp => (isOrdinary_english.words hp).1) hmem

theorem proper_names : ∀ p ∈ numberNames english, IsProper p.toList :=
  fun p hp => (isOrdinary_english.numbers p hp).1

/-- English has a reader for its number words. -/
theorem exists_reader_english : ∃ reader, Reader.ofPack? english = .ok (some reader) := by
  obtain ⟨values, hvalues⟩ := exists_readValues english.code isOrdinary_english.values
  have hword : pattern? (english.numbers.map (·.1)) = some word :=
    pattern?_of_mem proper_names (name_mem .hundred (by decide))
  unfold Reader.ofPack?
  rw [hvalues]
  simp only [hword, bind, Except.bind, pure, Except.pure]
  exact ⟨_, rfl⟩

theorem and_spoken : IsSpoken "and".toList ∧ firstWord "and".toList = "and".toList ∧
    ∀ q ∈ numberNames english, firstWord q.toList ≠ "and".toList := by decide +kernel

section Places

variable {p : NamePart} (hp : p ∈ NamePart.all) {b : Option Char} {a : List Char}
  (hb : b.any isWordCharacter = false) (ha : a.head?.any isWordCharacter = false)

include hp in
theorem isWord_spelling : IsWord p.spelling := by
  have h := (spelling_word p hp).1.isWord
  rwa [(spelling_word p hp).2.1] at h

include hp hb ha

/-- The word of a part is read where it stands. -/
theorem prefers_word : word.Prefers b p.spelling a [] := by
  have hmem := name_mem p hp
  exact prefers_pattern proper_names distinct_names hmem (fits_self (proper_names _ hmem) hb ha)

/-- Where the word of a part stands neither the connector begins nor a protected phrase. -/
theorem not_begins_spelling {phrases : List String}
    (h : ∀ q ∈ phrases, q ∈ "and" :: protectedPhrases english) :
    ¬ Begins phrases b (p.spelling ++ a) :=
  not_begins_word (isWord_spelling hp) hb ha fun q hq _ => (spelling_word p hp).2.2 q (h q hq)

end Places

section Connectors

variable {b : Option Char} {a : List Char} (hb : b.any isWordCharacter = false)
  (ha : a.head?.any isWordCharacter = false)

theorem opens_connector : connector.OpensAt (Begins ["and"]) :=
  opensAt_pattern (List.forall_mem_singleton.mpr (Or.inl and_spoken.1))

include hb ha

theorem prefers_connector : connector.Prefers b "and".toList a [] := by
  have hproper : IsProper "and".toList := Or.inl and_spoken.1
  refine prefers_pattern (List.forall_mem_singleton.mpr hproper) ?_ List.mem_cons_self
    (fits_self hproper hb ha)
  intro p hp q hq _
  rw [List.mem_singleton.mp hp, List.mem_singleton.mp hq]

end Connectors

/-! ## Runs -/

/-- A part with what stands in front of it goes on with a run. -/
def stepPattern : Pattern := inOrder [innerGap (some connector), word]

/-- No run goes on here: no word goes on, and behind a gap no number word and no connector
begins. -/
def EndsRun (before : Option Char) (a : List Char) : Prop :=
  a.head?.any isWordCharacter = false ∧
    ¬ PastBlanks (fun b r => Begins (numberNames english) b r ∨ Begins ["and"] b r) before a

theorem prefers_innerGap {s : NameStep} (hs : s.part ∈ NamePart.all) {b : Option Char} {a : List Char}
    (ha : a.head?.any isWordCharacter = false) :
    (innerGap (some connector)).Prefers b s.gap (s.part.spelling ++ a) [] := by
  have hsolid : (s.part.spelling ++ a).head?.any isBlank = false :=
    IsProper.head_solid (Or.inl (spelling_word s.part hs).1)
  obtain ⟨connected, p⟩ := s
  cases connected with
  | true =>
    have hand : (inOrder [connector, Pattern.gap]).Prefers (some ' ') ("and".toList ++ [' '])
        (p.spelling ++ a) [] :=
      (prefers_connector behind_space head_space).seq (prefers_space hsolid)
    have hspace : Pattern.gap.Prefers b [' '] ("and".toList ++ [' '] ++ (p.spelling ++ a)) [] :=
      prefers_space (show isBlank 'a' = false by decide)
    exact hspace.seq (prefers_optional hand)
  | false =>
    have hnone : (optional (inOrder [connector, Pattern.gap])).Prefers (some ' ') []
        (p.spelling ++ a) [] := by
      refine prefers_optional_nil fun w a' k hw hread => ?_
      have hbegins := opens_connector.seq _ _ _ _ hread
      rw [← hw] at hbegins
      exact not_begins_spelling hs behind_space ha (by simp) hbegins
    exact Prefers.seq (u := [' ']) (v := []) (prefers_space hsolid) hnone

theorem prefers_step {s : NameStep} (hs : s.part ∈ NamePart.all) {b : Option Char} {a : List Char}
    (ha : a.head?.any isWordCharacter = false) :
    stepPattern.Prefers b (s.gap ++ s.part.spelling) a [] := by
  have hbehind : (behind b s.gap).any isWordCharacter = false := by
    unfold NameStep.gap
    split
    · exact behind_space
    · exact behind_space
  exact (prefers_innerGap hs ha).seq (prefers_word hs hbehind ha)

/-- Where a run ends no part goes on with it. -/
theorem not_reads_step {b : Option Char} {w a : List Char} {k : List (Nat × List Char)}
    (h : EndsRun b (w ++ a)) : ¬ stepPattern.Reads b w a k := by
  intro hread
  apply h.2
  obtain ⟨i, v, _, _, rfl, -, hinner, hword⟩ := reads_inOrder_cons.mp hread
  obtain ⟨g, o, _, _, rfl, -, hgap, hoptional⟩ := reads_inOrder_cons.mp hinner
  obtain ⟨-, hblank, -⟩ := reads_gap.mp hgap
  have hplace : Begins (numberNames english) (behind b g) (o ++ (v ++ a)) ∨
      Begins ["and"] (behind b g) (o ++ (v ++ a)) := by
    rcases reads_optional.mp hoptional with hand | ⟨rfl, -⟩
    · exact Or.inr (opens_connector.seq _ _ _ _ hand)
    · rw [List.append_nil] at hword
      have hbegins : Begins (numberNames english) (behind b g) (v ++ a) :=
        opensAt_pattern proper_names _ _ _ _ hword
      exact Or.inl hbegins
  refine ⟨g, o ++ (v ++ a), by simp, hblank, ?_, hplace⟩
  rcases hplace with hplace | hplace <;> exact hplace.solid

/-- No word goes on where the parts behind the first begin. -/
theorem head_stepsText (steps : List NameStep) {a : List Char}
    (ha : a.head?.any isWordCharacter = false) :
    (stepsText steps ++ a).head?.any isWordCharacter = false := by
  cases steps with
  | nil => exact ha
  | cons s steps =>
    rw [stepsText_cons]
    unfold NameStep.gap
    split
    · exact head_space
    · exact head_space

/-- A row of parts is a run of number words. -/
theorem prefers_runPattern {p : NamePart} {steps : List NameStep} (hp : p ∈ NamePart.all)
    (hsteps : ∀ s ∈ steps, s.part ∈ NamePart.all) {b : Option Char} {a : List Char}
    (hb : b.any isWordCharacter = false) (ha : EndsRun (behind b (rowText p steps)) a) :
    (runPattern word (some connector)).Prefers b (rowText p steps) a [] := by
  have hend := ha.1
  have hmany (steps : List NameStep) (hsteps : ∀ s ∈ steps, s.part ∈ NamePart.all) {b : Option Char}
      (ha : EndsRun (behind b (stepsText steps)) a) :
      (many stepPattern).Prefers b (stepsText steps) a [] := by
    induction steps generalizing b with
    | nil =>
      refine prefers_many_nil fun w a' k hw hread => ?_
      subst hw
      exact not_reads_step ha hread
    | cons s steps ih =>
      obtain ⟨hs, hrest⟩ := List.forall_mem_cons.mp hsteps
      rw [stepsText_cons, rowText, ← List.append_assoc, behind_append] at ha
      rw [stepsText_cons, rowText, ← List.append_assoc]
      have hne : s.gap ++ s.part.spelling ≠ [] := by simp [(isWord_spelling hs).1]
      exact prefers_many_cons hne (prefers_step hs (head_stepsText steps hend)) (ih hrest ha)
  rw [rowText, behind_append] at ha
  exact (prefers_word hp hb (head_stepsText steps ha.1)).seq (hmany steps hsteps ha)

/-- Where a row of parts stands it is the run that is found. -/
theorem matchAt?_run {p : NamePart} {steps : List NameStep} (hp : p ∈ NamePart.all)
    (hsteps : ∀ s ∈ steps, s.part ∈ NamePart.all) {b : Option Char} {a : List Char}
    (hb : b.any isWordCharacter = false) (ha : EndsRun (behind b (rowText p steps)) a) :
    (runOf english).matchAt? b (rowText p steps ++ a) =
      some ⟨rowText p steps, [(2, rowText p steps)]⟩ := by
  have hprotected : ∀ w a' k, rowText p steps ++ a = w ++ a' →
      ¬ (group 1 (pattern (protectedPhrases english))).Reads b w a' k := by
    intro w a' k hw hread
    have hopens : (group 1 (pattern (protectedPhrases english))).OpensAt
        (Begins (protectedPhrases english)) :=
      (opensAt_pattern fun q hq => (isOrdinary_english.protectedPhrases hq).1).group 1
    have hbegins := hopens _ _ _ _ hread
    rw [← hw, rowText, List.append_assoc] at hbegins
    exact not_begins_spelling hp hb (head_stepsText steps ha.1) (fun q hq => List.mem_cons_of_mem _ hq) hbegins
  have hrun := (prefers_runPattern hp hsteps hb ha).group 2
  have hne : rowText p steps ≠ [] := by simp [rowText, (isWord_spelling hp).1]
  rw [runOf, connector_eq]
  exact (Prefers.right hprotected hrun).matchAt?_eq hne

/-! ## Tokens -/

/-- The match for a part with its connector. -/
def foundStep (s : NameStep) : Match :=
  if s.connected then
    ⟨"and ".toList ++ s.part.spelling, [(2, s.part.spelling), (1, "and".toList)]⟩
  else ⟨s.part.spelling, [(2, s.part.spelling)]⟩

/-- The token that a part with its connector stands for. -/
def stepToken (s : NameStep) : Token :=
  ⟨s.part.value, if s.connected then some "and".toList else none⟩

theorem gap_append (s : NameStep) : s.gap ++ s.part.spelling = ' ' :: (foundStep s).text := by
  unfold NameStep.gap foundStep
  split <;> rfl

theorem opensAt_token : (tokenPattern word (some connector)).OpensAt fun b r =>
    Begins (numberNames english) b r ∨ Begins ["and"] b r := by
  intro b w a k hread
  obtain ⟨o, v, _, _, rfl, -, hoptional, hword⟩ := reads_inOrder_cons.mp hread
  rw [List.append_assoc]
  rcases reads_optional.mp hoptional with hand | ⟨rfl, -⟩
  · exact Or.inr ((opens_connector.group 1).seq _ _ _ _ hand)
  · have hbegins : Begins (numberNames english) b (v ++ a) :=
      (opensAt_pattern proper_names).group 2 _ _ _ _ hword
    exact Or.inl hbegins

/-- A part with its connector is a token. -/
theorem matchAt?_token {s : NameStep} (hs : s.part ∈ NamePart.all) {b : Option Char} {a : List Char}
    (hb : b.any isWordCharacter = false) (ha : a.head?.any isWordCharacter = false) :
    (tokenPattern word (some connector)).matchAt? b ((foundStep s).text ++ a) = some (foundStep s) := by
  obtain ⟨connected, p⟩ := s
  have hsolid : (p.spelling ++ a).head?.any isBlank = false :=
    IsProper.head_solid (Or.inl (spelling_word p hs).1)
  have hne := (isWord_spelling hs).1
  cases connected with
  | true =>
    have hand : (inOrder [group 1 connector, Pattern.gap]).Prefers b ("and".toList ++ [' '])
        (p.spelling ++ a) [(1, "and".toList)] :=
      ((prefers_connector hb head_space).group 1).seq (prefers_space hsolid)
    have hword := (prefers_word hs (b := behind b ("and".toList ++ [' '])) behind_space ha).group 2
    exact ((prefers_optional hand).seq hword).matchAt?_eq (by simp)
  | false =>
    have hnone : (optional (inOrder [group 1 connector, Pattern.gap])).Prefers b []
        (p.spelling ++ a) [] := by
      refine prefers_optional_nil fun w a' k hw hread => ?_
      have hbegins := (opens_connector.group 1).seq _ _ _ _ hread
      rw [← hw] at hbegins
      exact not_begins_spelling hs hb ha (by simp) hbegins
    exact (hnone.seq ((prefers_word hs hb ha).group 2)).matchAt?_eq hne

theorem matchesAfter_steps {steps : List NameStep} (hsteps : ∀ s ∈ steps, s.part ∈ NamePart.all)
    (b : Option Char) : (tokenPattern word (some connector)).matchesAfter b (stepsText steps) =
      steps.map foundStep := by
  have hspace (b : Option Char) (r : List Char) :
      (tokenPattern word (some connector)).matchAt? b (' ' :: r) = none := by
    refine opensAt_token.matchAt?_eq_none fun h => ?_
    rcases h with h | h <;> exact not_begins_space h
  induction steps generalizing b with
  | nil => rfl
  | cons s steps ih =>
    obtain ⟨hs, hrest⟩ := List.forall_mem_cons.mp hsteps
    have hhead : (stepsText steps).head?.any isWordCharacter = false := by
      have h := head_stepsText steps (a := []) rfl
      rwa [List.append_nil] at h
    rw [stepsText_cons, rowText, ← List.append_assoc, gap_append s, List.cons_append,
      matchesAfter_plain (hspace _ _), matchesAfter_found (matchAt?_token hs behind_space hhead),
      ih hrest, List.map_cons]

/-! ## Values -/

section Values

variable {reader : Reader} (hreader : Reader.ofPack? english = .ok (some reader))

include hreader

/-- The word of a part has the value of the part. -/
theorem valueOf?_spelling {p : NamePart} (hp : p ∈ NamePart.all) :
    reader.valueOf? p.spelling = some p.value := by
  have hall : ∀ p ∈ NamePart.all,
      (readValues english.code english.numbers).toOption.bind (·.lookup p.spelling) =
        some p.value := by decide +kernel
  have hvalue := hall p hp
  rw [(reader_of_ofPack? hreader).2.2] at hvalue
  show reader.values.lookup (entry p.name) = some p.value
  rw [IsSpoken.entry_eq (spelling_word p hp).1]
  exact hvalue

theorem tokenOf?_found {s : NameStep} (hs : s.part ∈ NamePart.all) :
    reader.tokenOf? (foundStep s) = some (stepToken s) := by
  obtain ⟨connected, p⟩ := s
  have hvalue := valueOf?_spelling hreader hs
  cases connected with
  | true =>
    show (reader.valueOf? p.spelling).map _ = _
    rw [hvalue]
    rfl
  | false =>
    show (reader.valueOf? p.spelling).map _ = _
    rw [hvalue]
    rfl

/-- A run is cut into the tokens of its parts. -/
theorem tokens?_row {p : NamePart} {steps : List NameStep} (hp : p ∈ NamePart.all)
    (hsteps : ∀ s ∈ steps, s.part ∈ NamePart.all) :
    reader.tokens? (rowText p steps) = some ((⟨false, p⟩ :: steps).map stepToken) := by
  have hhead : (stepsText steps).head?.any isWordCharacter = false := by
    have h := head_stepsText steps (a := []) rfl
    rwa [List.append_nil] at h
  have hfirst := matchAt?_token (s := ⟨false, p⟩) hp (b := none) rfl hhead
  have hmatches : reader.token.matchesIn (rowText p steps) =
      (⟨false, p⟩ :: steps).map foundStep := by
    rw [(reader_of_ofPack? hreader).2.1, connector_eq, matchesIn_eq_matchesAfter]
    show (tokenPattern word (some connector)).matchesAfter none
      ((foundStep ⟨false, p⟩).text ++ stepsText steps) = _
    rw [matchesAfter_found hfirst, matchesAfter_steps hsteps, List.map_cons]
  have hall : ∀ s ∈ (⟨false, p⟩ : NameStep) :: steps, s.part ∈ NamePart.all :=
    List.forall_mem_cons.mpr ⟨hp, hsteps⟩
  rw [Reader.tokens?, hmatches]
  generalize (⟨false, p⟩ : NameStep) :: steps = all at hall
  induction all with
  | nil => rfl
  | cons s all ih =>
    obtain ⟨hs, hrest⟩ := List.forall_mem_cons.mp hall
    rw [List.map_cons, List.map_cons, List.mapM_cons, tokenOf?_found hreader hs, ih hrest]
    rfl

/-- A run of the parts of a name is written as the number. -/
theorem decode_row {n : Nat} (hpos : 0 < n) (hn : n < 1000000) {p : NamePart}
    {steps : List NameStep} (hparts : numberParts n = p :: steps.map NameStep.part) :
    reader.decode (rowText p steps) = Nat.toDigits 10 n := by
  have hall := mem_all_of_mem_numberParts hn
  rw [hparts, List.forall_mem_cons, List.forall_mem_map] at hall
  have hvalues : ((⟨false, p⟩ :: steps).map stepToken).map Token.value =
      (numberParts n).map NamePart.value := by
    rw [hparts]
    simp [stepToken, Function.comp_def]
  rw [Reader.decode, tokens?_row hreader hall.1 hall.2, ← foldText_of_parts hpos hn hvalues]
  rfl

/-- A run of the parts of a name is rewritten as the number, and the text goes on behind it. -/
theorem rewriteAfter_row {n : Nat} (hpos : 0 < n) (hn : n < 1000000) {p : NamePart}
    {steps : List NameStep} (hparts : numberParts n = p :: steps.map NameStep.part)
    {b : Option Char} {a : List Char} (hb : b.any isWordCharacter = false)
    (ha : EndsRun (behind b (rowText p steps)) a) :
    (runOf english).rewriteAfter reader.rewriteRun b (rowText p steps ++ a) =
      Nat.toDigits 10 n ++
        (runOf english).rewriteAfter reader.rewriteRun (behind b (rowText p steps)) a := by
  have hall := mem_all_of_mem_numberParts hn
  rw [hparts, List.forall_mem_cons, List.forall_mem_map] at hall
  have hfound := rewriteAfter_found (m := ⟨rowText p steps, [(2, rowText p steps)]⟩)
    reader.rewriteRun (matchAt?_run hall.1 hall.2 hb ha)
  rw [hfound, ← decode_row hreader hpos hn hparts]
  rfl

end Values

end CalcSpeech.NumberWord
