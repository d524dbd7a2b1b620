import CalcSpeech.Proofs.Session.Basic
import CalcSpeech.Proofs.Session.Loading

/-!
# Kept lexicons are never seen

A normalizer keeps the lexicons it has made, and nobody can tell: every call of a session is
answered as a new normalizer over the registry of that moment would answer it, and what a language
is read with is made from the pack that is registered for it at that moment.

The invariant is `Faithful`. A kept lexicon may outlive its pack, since nothing is dropped when a
pack is replaced, and it stays when making the lexicon of the new pack fails. What it can never do
is pass for a lexicon of the new pack: registrations are numbered upwards, so that the number of a
new one is above that of everything kept.
-/

namespace CalcSpeech

namespace Registry

/-- What the pack that is registered for a language now is read with: its lexicon, and the number
of its registration. -/
def reading (registry : Registry) (language : String) : Except Failure (Lexicon × Nat) :=
  match registry.get? language with
  | none => .error (.unsupportedLanguage language)
  | some entry =>
    match Lexicon.ofPack entry.pack with
    | .error fault => .error (.languagePack fault)
    | .ok lexicon => .ok (lexicon, entry.registration)

/-- What is found behind a registration is the new entry, under the newest number, or was there
before. -/
theorem find?_of_register {registry after : Registry} {pack : LanguagePack}
    (h : registry.register pack = .ok after) :
    after.registrations = registry.registrations + 1 ∧
      ∀ code entry, after.find? code = some entry →
        entry.registration = registry.registrations ∨ registry.find? code = some entry := by
  refine ⟨(find?_register h "").1, ?_⟩
  intro code entry hfind
  rw [(find?_register h code).2] at hfind
  split at hfind
  · obtain rfl := Option.some.inj hfind
    exact Or.inl rfl
  · exact Or.inr hfind

end Registry

namespace Normalizer

/-- What holds of a normalizer in a session: everything registered or kept has a number below the
next registration's, and a kept lexicon with the number of a registered pack is the lexicon of
that pack. -/
structure Faithful (n : Normalizer) : Prop where
  registered : ∀ code entry, n.registry.find? code = some entry →
    entry.registration < n.registry.registrations
  kept : ∀ code c, n.lexicons.lookup code = some c → c.registration < n.registry.registrations
  made : ∀ code entry c, n.registry.find? code = some entry → n.lexicons.lookup code = some c →
    c.registration = entry.registration → Lexicon.ofPack entry.pack = .ok c.lexicon

/-- A normalizer that has kept nothing over an empty registry is faithful. -/
theorem faithful_new : Faithful {} where
  registered _ _ h := by simp [Registry.find?] at h
  kept _ _ h := by simp at h
  made _ _ _ h := by simp [Registry.find?] at h

/-- Registering keeps a normalizer faithful: the number of the new entry is above that of every
kept lexicon, so none passes for the new pack's. -/
theorem Faithful.register {n : Normalizer} (hn : n.Faithful) {pack : LanguagePack}
    {after : Registry} (h : n.registry.register pack = .ok after) :
    Faithful { n with registry := after } := by
  obtain ⟨hcount, hfind⟩ := Registry.find?_of_register h
  constructor
  · intro code entry he
    show entry.registration < after.registrations
    rcases hfind code entry he with hnew | hold
    · omega
    · have := hn.registered code entry hold
      omega
  · intro code c hc
    show c.registration < after.registrations
    have := hn.kept code c hc
    omega
  · intro code entry c he hc hsame
    rcases hfind code entry he with hnew | hold
    · have := hn.kept code c hc
      omega
    · exact hn.made code entry c hold hc hsame

/-- A lexicon that is still kept when one was dropped was kept before, under another code. -/
theorem lookup_forget {n : Normalizer} {code other : String} {c : Compiled}
    (h : (n.forget code).lexicons.lookup other = some c) :
    other ≠ code ∧ n.lexicons.lookup other = some c := by
  unfold forget at h
  revert h
  induction n.lexicons with
  | nil => simp
  | cons head rest ih =>
    obtain ⟨name, kept⟩ := head
    intro h
    by_cases hname : name = code
    · rw [List.filter_cons_of_neg (by simp [hname])] at h
      obtain ⟨hne, hrest⟩ := ih h
      refine ⟨hne, ?_⟩
      rw [List.lookup_cons, hname, beq_false_of_ne hne]
      exact hrest
    · rw [List.filter_cons_of_pos (by simp [hname]), List.lookup_cons] at h
      by_cases hother : other = name
      · rw [hother, List.lookup_cons_self]
        rw [hother, beq_self_eq_true] at h
        exact ⟨hname, h⟩
      · rw [beq_false_of_ne hother] at h
        obtain ⟨hne, hrest⟩ := ih h
        refine ⟨hne, ?_⟩
        rw [List.lookup_cons, beq_false_of_ne hother]
        exact hrest

/-- Dropping a lexicon keeps a normalizer faithful. -/
theorem Faithful.forget {n : Normalizer} (hn : n.Faithful) (code : String) :
    (n.forget code).Faithful where
  registered := hn.registered
  kept other c hc := hn.kept other c (lookup_forget hc).2
  made other entry c he hc hsame := hn.made other entry c he (lookup_forget hc).2 hsame

/-- Making the lexicon of a registered pack keeps a normalizer faithful. -/
theorem Faithful.compile {n after : Normalizer} (hn : n.Faithful) {code : String}
    {entry : Registered} (hentry : n.registry.find? code = some entry) {c : Compiled}
    (h : n.compile code entry = .ok (c, after)) : after.Faithful := by
  unfold Normalizer.compile at h
  split at h
  · cases h
  · rename_i lexicon hlexicon
    cases h
    -- under `code` the new lexicon is found, under other codes what was found before
    have hlookup : ∀ other d,
        List.lookup other ((code, ⟨lexicon, entry.registration, n.compilations⟩) ::
          (n.forget code).lexicons) = some d →
        (other = code ∧ d = ⟨lexicon, entry.registration, n.compilations⟩) ∨
          n.lexicons.lookup other = some d := by
      intro other d hd
      by_cases hother : other = code
      · rw [hother, List.lookup_cons_self, Option.some.injEq] at hd
        exact Or.inl ⟨hother, hd.symm⟩
      · rw [List.lookup_cons, beq_false_of_ne hother] at hd
        exact Or.inr (lookup_forget hd).2
    constructor
    · exact hn.registered
    · intro other d hd
      rcases hlookup other d hd with ⟨-, rfl⟩ | hold
      · exact hn.registered code entry hentry
      · exact hn.kept other d hold
    · intro other found d he hd hsame
      rcases hlookup other d hd with ⟨rfl, rfl⟩ | hold
      · have : found = entry := Option.some.inj (he.symm.trans hentry)
        rw [this]
        exact hlexicon
      · exact hn.made other found d he hold hsame

/-- Asking for a lexicon keeps a normalizer faithful. -/
theorem Faithful.compiled {n after : Normalizer} (hn : n.Faithful) {language : String}
    {c : Compiled} (h : n.compiled language = .ok (c, after)) : after.Faithful := by
  unfold Normalizer.compiled at h
  simp only at h
  split at h
  · cases h
  · rename_i entry hentry
    split at h
    · cases h
      exact hn
    · exact hn.compile hentry h

/-- In a faithful normalizer a language is read with the lexicon of its registered pack, kept or
not. -/
theorem Faithful.compiled_eq {n : Normalizer} (hn : n.Faithful) (language : String) :
    (n.compiled language).map (fun found => (found.1.lexicon, found.1.registration)) =
      n.registry.reading language := by
  unfold Normalizer.compiled Registry.reading Registry.get?
  cases hentry : n.registry.find? (LanguageCode.normalize language) with
  | none =>
    simp only [hentry]
    rfl
  | some entry =>
    simp only [hentry]
    cases hkept : n.kept? (LanguageCode.normalize language) entry.registration with
    | none =>
      simp only [Normalizer.compile]
      cases Lexicon.ofPack entry.pack <;> rfl
    | some c =>
      obtain ⟨hlookup, hsame⟩ := Option.filter_eq_some_iff.mp hkept
      rw [beq_iff_eq] at hsame
      simp only [hn.made _ entry c hentry hlookup hsame, Except.map, hsame]

/-- In a faithful normalizer an expression is made with the lexicon of the registered pack. -/
theorem Faithful.normalize_eq {n : Normalizer} (hn : n.Faithful) (transcript language : String) :
    (n.normalize transcript language).map (·.1) =
      (n.registry.reading language).map (·.1.normalizeString transcript) := by
  rw [← hn.compiled_eq language]
  unfold Normalizer.normalize
  cases n.compiled language <;> rfl

/-- Asking for an expression keeps a normalizer faithful. -/
theorem Faithful.normalize {n after : Normalizer} (hn : n.Faithful)
    {transcript language text : String}
    (h : n.normalize transcript language = .ok (text, after)) : after.Faithful := by
  unfold Normalizer.normalize at h
  cases hc : n.compiled language with
  | error failure =>
    rw [hc] at h
    cases h
  | ok found =>
    rw [hc] at h
    cases h
    exact hn.compiled hc

/-- Every call keeps a normalizer faithful. -/
theorem Faithful.step {n : Normalizer} (hn : n.Faithful) (act : Act) :
    (n.step act).2.Faithful := by
  -- a pack that was read or handed over
  have hregister : ∀ pack : Except PackFault LanguagePack, (n.stepRegister pack).2.Faithful := by
    intro pack
    unfold stepRegister
    split
    · exact hn
    · rename_i after h
      cases pack with
      | error fault => cases h
      | ok pack => exact hn.register h
  cases act with
  | register pack => exact hregister _
  | registerText text => exact hregister _
  | loadDirectory disk directory =>
    exact Registry.registerAll_keeps (P := fun registry => Faithful { n with registry })
      (fun _ _ _ h hfaithful => hfaithful.register h)
      (n.registry.registerAll_loadDirectory directory disk) hn
  | invalidate language => exact hn.forget _
  | compiled language =>
    show (n.stepLookup _ (n.compiled language)).2.Faithful
    unfold stepLookup
    split
    · exact hn
    · rename_i h
      exact hn.compiled h
  | normalize transcript language =>
    show (n.stepLookup _ (n.normalize transcript language)).2.Faithful
    unfold stepLookup
    split
    · exact hn
    · rename_i h
      exact hn.normalize h

/-- Every row of calls keeps a normalizer faithful. -/
theorem Faithful.behind {n : Normalizer} (hn : n.Faithful) (acts : List Act) :
    (n.behind acts).Faithful := by
  induction acts generalizing n with
  | nil => exact hn
  | cons act rest ih => exact ih (hn.step act)

/-- A new normalizer over the registry of a faithful one is faithful. -/
theorem Faithful.renewed {n : Normalizer} (hn : n.Faithful) : n.renewed.Faithful where
  registered := hn.registered
  kept _ _ h := by simp [Normalizer.renewed] at h
  made _ _ _ _ h := by simp [Normalizer.renewed] at h

/-- The answer to a registration depends on the registry only. -/
theorem stepRegister_answer (n : Normalizer) (pack : Except PackFault LanguagePack) :
    (n.stepRegister pack).1 =
      match pack.bind n.registry.register with
      | .error fault => .failed (.languagePack fault)
      | .ok _ => .done := by
  unfold stepRegister
  cases pack.bind n.registry.register <;> rfl

/-- The answer to asking for a lexicon says only what it is read with. -/
theorem stepLookup_compiled (n : Normalizer) (found : Except Failure (Compiled × Normalizer)) :
    (n.stepLookup (fun c : Compiled => .lexicon c.lexicon c.registration) found).1 =
      match found.map (fun found => (found.1.lexicon, found.1.registration)) with
      | .error failure => .failed failure
      | .ok (lexicon, registration) => .lexicon lexicon registration := by
  cases found <;> rfl

/-- The answer to asking for an expression says only the expression. -/
theorem stepLookup_normalize (n : Normalizer) (found : Except Failure (String × Normalizer)) :
    (n.stepLookup .expression found).1 =
      match found.map (·.1) with
      | .error failure => .failed failure
      | .ok text => .expression text := by
  cases found <;> rfl

/-- A faithful normalizer answers a call as a new one over its registry does. -/
theorem Faithful.step_renewed {n : Normalizer} (hn : n.Faithful) (act : Act) :
    (n.step act).1 = (n.renewed.step act).1 := by
  have hregister : ∀ pack : Except PackFault LanguagePack,
      (n.stepRegister pack).1 = (n.renewed.stepRegister pack).1 := by
    intro pack
    rw [stepRegister_answer, stepRegister_answer]
    rfl
  cases act with
  | register pack => exact hregister _
  | registerText text => exact hregister _
  | loadDirectory disk directory => rfl
  | invalidate language => rfl
  | compiled language =>
    show (n.stepLookup _ (n.compiled language)).1 =
      (n.renewed.stepLookup _ (n.renewed.compiled language)).1
    rw [stepLookup_compiled, stepLookup_compiled, hn.compiled_eq, hn.renewed.compiled_eq]
    rfl
  | normalize transcript language =>
    show (n.stepLookup _ (n.normalize transcript language)).1 =
      (n.renewed.stepLookup _ (n.renewed.normalize transcript language)).1
    rw [stepLookup_normalize, stepLookup_normalize, hn.normalize_eq, hn.renewed.normalize_eq]
    rfl

/-- A faithful normalizer answers every row of calls as new ones do. -/
theorem Faithful.answers_eq {n : Normalizer} (hn : n.Faithful) (acts : List Act) :
    n.answers acts = n.renewedAnswers acts := by
  induction acts generalizing n with
  | nil => rfl
  | cons act rest ih =>
    show (n.step act).1 :: (n.step act).2.answers rest =
      (n.renewed.step act).1 :: (n.step act).2.renewedAnswers rest
    rw [hn.step_renewed act, ih (hn.step act)]

/-- In every session, each call is answered as a new normalizer over the registry of that moment
answers it; and behind every row of calls a language is read, and an expression made, with the
lexicon of the pack that is registered at that moment and of no other. -/
theorem session_transparent (acts : List Act) :
    answers {} acts = renewedAnswers {} acts ∧
    ∀ language,
      ((behind {} acts).compiled language).map
          (fun found => (found.1.lexicon, found.1.registration)) =
        (behind {} acts).registry.reading language ∧
      ∀ transcript,
        ((behind {} acts).normalize transcript language).map (·.1) =
          ((behind {} acts).registry.reading language).map (·.1.normalizeString transcript) := by
  have hfaithful : (behind {} acts).Faithful := faithful_new.behind acts
  refine ⟨faithful_new.answers_eq acts, ?_⟩
  intro language
  refine ⟨hfaithful.compiled_eq language, ?_⟩
  intro transcript
  exact hfaithful.normalize_eq transcript language

end Normalizer

end CalcSpeech
