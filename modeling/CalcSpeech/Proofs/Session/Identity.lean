import CalcSpeech.Proofs.Lexicon
import CalcSpeech.Proofs.Session.Transparency

/-!
# When a lexicon is made anew

Two calls of a session that ask for the same code are given the very same lexicon, with the same
serial number, exactly when between them no pack was registered under that code and the code was
not dropped (`session_keeps`).

What a call on a code is given without making anything is `current?`, and one equation says what
each call does to it (`current?_step`). A lexicon that is current stays so until its code is reset.
Once it is not current any more it never comes back, since every lexicon that is made later has a
serial number above its own (`IsGone.behind`).
-/

namespace CalcSpeech

namespace Normalizer

/-! ## What a call does to a code -/

/-- The pack that was handed over or read, if it is registered. -/
def accepted (n : Normalizer) (pack : Except PackFault LanguagePack) : List LanguagePack :=
  match pack with
  | .error _ => []
  | .ok pack => match n.registry.register pack with
    | .error _ => []
    | .ok _ => [pack]

/-- The packs that a call registers, also when it fails later on. -/
def registered (n : Normalizer) : Act → List LanguagePack
  | .register pack => n.accepted (.ok pack)
  | .registerText text => n.accepted (LanguagePack.ofText text)
  | .loadDirectory disk directory =>
    ((n.registry.loadDirectory directory : StateM Disk Registry.Loading).run disk).1.loaded.map (·.2)
  | _ => []

/-- The code that a call drops. -/
def dropped? : Act → Option String
  | .invalidate language => some (LanguageCode.normalize language)
  | _ => none

/-- A call registers a pack under a code or drops the code. -/
def Resets (n : Normalizer) (code : String) (act : Act) : Prop :=
  code ∈ Registry.codesOf (n.registered act) ∨ dropped? act = some code

/-- One of a row of calls resets a code. -/
def ResetsIn (n : Normalizer) (code : String) : List Act → Prop
  | [] => False
  | act :: rest => n.Resets code act ∨ (n.step act).2.ResetsIn code rest

/-- The code that a call asks for, with the lexicon that it is given. -/
def given? (n : Normalizer) : Act → Option (String × Compiled)
  | .compiled language | .normalize _ language =>
    (n.compiled language).toOption.map fun found => (LanguageCode.normalize language, found.1)
  | _ => none

/-- The lexicon that a call on a code is given as it is. -/
def current? (n : Normalizer) (code : String) : Option Compiled :=
  (n.registry.find? code).bind fun entry => n.kept? code entry.registration

theorem stepRegister_accepted (n : Normalizer) (pack : Except PackFault LanguagePack) :
    ∃ registry, n.registry.registerAll (n.accepted pack) = .ok registry ∧
      (n.stepRegister pack).2 = { n with registry } := by
  cases pack with
  | error fault => exact ⟨n.registry, rfl, rfl⟩
  | ok pack =>
    have hbind : (Except.ok pack).bind n.registry.register = n.registry.register pack := rfl
    cases hnew : n.registry.register pack with
    | error fault =>
      refine ⟨n.registry, ?_, ?_⟩
      · simp only [accepted, hnew]
        rfl
      · simp only [stepRegister, hbind, hnew]
    | ok registry =>
      refine ⟨registry, ?_, ?_⟩
      · simp only [accepted, hnew]
        exact Registry.registerAll_cons.mpr ⟨registry, hnew, rfl⟩
      · simp only [stepRegister, hbind, hnew]

/-- What each call is, for the registry and for the lexicons: it registers packs, drops a code, or
is given a lexicon. -/
theorem step_cases (n : Normalizer) (act : Act) :
    (∃ registry, n.registry.registerAll (n.registered act) = .ok registry ∧
      (n.step act).2 = { n with registry } ∧ dropped? act = none ∧ n.given? act = none) ∨
    (∃ code, dropped? act = some code ∧ (n.step act).2 = n.forget code ∧ n.registered act = [] ∧
      n.given? act = none) ∨
    ∃ language c, n.given? act = some (LanguageCode.normalize language, c) ∧
      n.compiled language = .ok (c, (n.step act).2) ∧ n.registered act = [] ∧
      dropped? act = none := by
  cases act with
  | register pack =>
    obtain ⟨registry, hall, hstep⟩ := n.stepRegister_accepted (.ok pack)
    exact Or.inl ⟨registry, hall, hstep, rfl, rfl⟩
  | registerText text =>
    obtain ⟨registry, hall, hstep⟩ := n.stepRegister_accepted (LanguagePack.ofText text)
    exact Or.inl ⟨registry, hall, hstep, rfl, rfl⟩
  | loadDirectory disk directory =>
    exact Or.inl ⟨_, n.registry.registerAll_loadDirectory directory disk, rfl, rfl, rfl⟩
  | invalidate language => exact Or.inr (Or.inl ⟨_, rfl, rfl, rfl, rfl⟩)
  | compiled language =>
    cases h : n.compiled language with
    | error failure =>
      refine Or.inl ⟨n.registry, rfl, ?_, rfl, ?_⟩
      · simp only [step, h, stepLookup]
      · simp only [given?, h]
        rfl
    | ok found =>
      refine Or.inr (Or.inr ⟨language, found.1, ?_, ?_, rfl, rfl⟩)
      · simp only [given?, h]
        rfl
      · simp only [step, h, stepLookup]
  | normalize transcript language =>
    cases h : n.compiled language with
    | error failure =>
      refine Or.inl ⟨n.registry, rfl, ?_, rfl, ?_⟩
      · simp only [step, Normalizer.normalize, h, Except.map, stepLookup]
      · simp only [given?, h]
        rfl
    | ok found =>
      refine Or.inr (Or.inr ⟨language, found.1, ?_, ?_, rfl, rfl⟩)
      · simp only [given?, h]
        rfl
      · simp only [step, Normalizer.normalize, h, Except.map, stepLookup]

/-! ## Looking a language up -/

section Lookup

variable {n after : Normalizer} {language : String} {c : Compiled}

/-- Under other codes than the one that is dropped everything is kept. -/
theorem lookup_forget_of_ne {code other : String} (hne : other ≠ code) :
    (n.forget code).lexicons.lookup other = n.lexicons.lookup other := by
  unfold forget
  induction n.lexicons with
  | nil => rfl
  | cons head rest ih =>
    obtain ⟨name, kept⟩ := head
    by_cases hname : name = code
    · rw [List.filter_cons_of_neg (by simp [hname]), List.lookup_cons, hname, beq_false_of_ne hne]
      exact ih
    · rw [List.filter_cons_of_pos (by simp [hname]), List.lookup_cons, List.lookup_cons, ih]

theorem lookup_forget_self (code : String) : (n.forget code).lexicons.lookup code = none := by
  cases h : (n.forget code).lexicons.lookup code with
  | none => rfl
  | some c => exact absurd rfl (lookup_forget h).1

/-- A lexicon that is given is the current one, or was made for want of one. -/
theorem compiled_cases (h : n.compiled language = .ok (c, after)) :
    (n.current? (LanguageCode.normalize language) = some c ∧ after = n) ∨
    ∃ entry, n.registry.find? (LanguageCode.normalize language) = some entry ∧
      n.current? (LanguageCode.normalize language) = none ∧
      Lexicon.ofPack entry.pack = .ok c.lexicon ∧ c.registration = entry.registration ∧
      c.serial = n.compilations ∧
      after = { n with
        lexicons := (LanguageCode.normalize language, c) ::
          (n.forget (LanguageCode.normalize language)).lexicons
        compilations := n.compilations + 1 } := by
  unfold Normalizer.compiled at h
  simp only at h
  split at h
  · cases h
  · rename_i entry hentry
    have hcurrent : n.current? (LanguageCode.normalize language) =
        n.kept? (LanguageCode.normalize language) entry.registration := by
      rw [current?, hentry]
      rfl
    split at h
    · rename_i kept hkept
      cases h
      exact Or.inl ⟨hcurrent.trans hkept, rfl⟩
    · rename_i hkept
      unfold Normalizer.compile at h
      split at h
      · cases h
      · rename_i lexicon hlexicon
        cases h
        exact Or.inr ⟨entry, hentry, hcurrent.trans hkept, hlexicon, rfl, rfl, rfl⟩

/-- Behind a lookup what was given is current, and other codes are as they were. -/
theorem current?_compiled (h : n.compiled language = .ok (c, after)) (code : String) :
    after.current? code =
      if code = LanguageCode.normalize language then some c else n.current? code := by
  rcases compiled_cases h with ⟨hcurrent, rfl⟩ | ⟨entry, hentry, -, -, hnumber, -, rfl⟩
  · split
    · rename_i hcode
      rw [hcode, hcurrent]
    · rfl
  · unfold current? kept?
    show (n.registry.find? code).bind _ = _
    split
    · rename_i hcode
      rw [hcode, hentry, Option.bind_some, List.lookup_cons_self]
      simp [hnumber]
    · rename_i hcode
      rw [List.lookup_cons, beq_false_of_ne hcode]
      simp only [lookup_forget_of_ne hcode]

end Lookup

/-! ## What is current -/

/-- A call that resets a code leaves nothing current under it, one that is given a lexicon makes it
current under its code, and all else stays as it is. -/
theorem current?_step {n : Normalizer} (hn : n.Faithful) (act : Act) (code : String) :
    (n.Resets code act → (n.step act).2.current? code = none) ∧
    (¬ n.Resets code act → (n.step act).2.current? code = n.current? code ∨
      ∃ c, n.given? act = some (code, c) ∧ (n.step act).2.current? code = some c) := by
  rcases n.step_cases act with ⟨registry, hall, hafter, hdropped, -⟩ |
    ⟨other, hdropped, hafter, hregistered, -⟩ |
    ⟨language, c, hgiven, hcompiled, hregistered, hdropped⟩
  · obtain ⟨hle, hnew, hold⟩ := Registry.find?_registerAll hall code
    rw [hafter]
    constructor
    · intro hreset
      obtain ⟨entry, hentry, hnumber⟩ := hnew (hreset.resolve_right (by rw [hdropped]; simp))
      -- every kept lexicon has a smaller number than what was just registered
      show (registry.find? code).bind _ = none
      rw [hentry, Option.bind_some, kept?]
      cases hkept : n.lexicons.lookup code with
      | none => rfl
      | some c =>
        have := hn.kept code c hkept
        have hne : c.registration ≠ entry.registration := by omega
        simp [hne]
    · intro hreset
      left
      show (registry.find? code).bind _ = _
      rw [hold fun hmem => hreset (Or.inl hmem)]
      rfl
  · rw [hafter]
    constructor
    · intro hreset
      rw [Resets, hregistered, hdropped] at hreset
      obtain rfl := Option.some.inj (hreset.resolve_left List.not_mem_nil)
      unfold current? kept?
      rw [lookup_forget_self]
      cases (n.forget other).registry.find? other <;> rfl
    · intro hreset
      left
      have hne : code ≠ other := fun h => hreset (Or.inr (by rw [hdropped, h]))
      unfold current? kept?
      rw [lookup_forget_of_ne hne]
      rfl
  · have hcurrent := current?_compiled hcompiled code
    constructor
    · intro hreset
      rw [Resets, hregistered, hdropped] at hreset
      exact absurd hreset (by simp [Registry.codesOf])
    · intro _
      split at hcurrent
      · rename_i hcode
        exact Or.inr ⟨c, by rw [hgiven, hcode], hcurrent⟩
      · exact Or.inl hcurrent

section Given

variable {n : Normalizer} {act : Act} {code : String} {c : Compiled}

/-- A call is given the current lexicon of its code or, if there is none, a new one. -/
theorem given?_cases (h : n.given? act = some (code, c)) :
    n.current? code = some c ∨ n.current? code = none ∧ c.serial = n.compilations := by
  rcases n.step_cases act with ⟨_, -, -, -, hgiven⟩ | ⟨_, -, -, -, hgiven⟩ |
    ⟨language, d, hgiven, hcompiled, -, -⟩
  · rw [hgiven] at h
    cases h
  · rw [hgiven] at h
    cases h
  · rw [hgiven] at h
    obtain ⟨rfl, rfl⟩ := Prod.mk.inj (Option.some.inj h)
    rcases compiled_cases hcompiled with ⟨hcurrent, -⟩ | ⟨_, -, hnone, -, -, hserial, -⟩
    · exact Or.inl hcurrent
    · exact Or.inr ⟨hnone, hserial⟩

/-- Behind a call what it was given is current. -/
theorem current?_given (h : n.given? act = some (code, c)) :
    (n.step act).2.current? code = some c := by
  rcases n.step_cases act with ⟨_, -, -, -, hgiven⟩ | ⟨_, -, -, -, hgiven⟩ |
    ⟨language, d, hgiven, hcompiled, -, -⟩
  · rw [hgiven] at h
    cases h
  · rw [hgiven] at h
    cases h
  · rw [hgiven] at h
    obtain ⟨rfl, rfl⟩ := Prod.mk.inj (Option.some.inj h)
    rw [current?_compiled hcompiled, if_pos rfl]

end Given

/-- What holds of the codes in a session: a registered pack has the code that it is found under, a
kept lexicon is of a registered language and has its code, and its serial number is given away. -/
structure Coded (n : Normalizer) : Prop where
  registered : ∀ code entry, n.registry.find? code = some entry → entry.pack.code = code
  kept : ∀ code c, (code, c) ∈ n.lexicons →
    (n.registry.find? code).isSome ∧ c.lexicon.pack.code = code ∧ c.serial < n.compilations

theorem coded_new : Coded {} where
  registered _ _ h := by simp [Registry.find?] at h
  kept _ _ h := by simp at h

/-- Every call keeps the codes in order. -/
theorem Coded.step {n : Normalizer} (hn : n.Coded) (act : Act) : (n.step act).2.Coded := by
  rcases n.step_cases act with ⟨registry, hall, hafter, -, -⟩ | ⟨other, -, hafter, -, -⟩ |
    ⟨language, c, -, hcompiled, -, -⟩
  · rw [hafter]
    constructor
    · refine Registry.registerAll_keeps
        (P := fun registry => ∀ code entry, registry.find? code = some entry →
          entry.pack.code = code) ?_ hall hn.registered
      intro registry pack new hnew hold code entry hentry
      rw [(Registry.find?_register hnew code).2] at hentry
      split at hentry
      · rename_i hcode
        obtain rfl := Option.some.inj hentry
        exact hcode.symm
      · exact hold code entry hentry
    · intro code c hc
      obtain ⟨hsome, hrest⟩ := hn.kept code c hc
      refine ⟨?_, hrest⟩
      obtain ⟨-, hnew, hold⟩ := Registry.find?_registerAll hall code
      show (registry.find? code).isSome = true
      by_cases hmem : code ∈ Registry.codesOf (n.registered act)
      · obtain ⟨entry, hentry, -⟩ := hnew hmem
        rw [hentry]
        rfl
      · rw [hold hmem]
        exact hsome
  · rw [hafter]
    exact ⟨hn.registered, fun code c hc => hn.kept code c (List.mem_filter.mp hc).1⟩
  · rcases compiled_cases hcompiled with ⟨-, hafter⟩ |
      ⟨entry, hentry, -, hlexicon, -, hserial, hafter⟩
    · rw [hafter]
      exact hn
    · rw [hafter]
      refine ⟨hn.registered, fun code d hd => ?_⟩
      show _ ∧ _ ∧ d.serial < n.compilations + 1
      rcases List.mem_cons.mp hd with hd | hd
      · obtain ⟨rfl, rfl⟩ := Prod.mk.inj hd
        refine ⟨?_, ?_, by omega⟩
        · show (n.registry.find? _).isSome = true
          rw [hentry]
          rfl
        · rw [(Lexicon.isOf_of_ofPack hlexicon).pack_eq]
          exact hn.registered _ entry hentry
      · obtain ⟨hsome, hcode, hbelow⟩ := hn.kept code d (List.mem_filter.mp hd).1
        exact ⟨hsome, hcode, by omega⟩

theorem Coded.behind {n : Normalizer} (hn : n.Coded) (acts : List Act) : (n.behind acts).Coded := by
  induction acts generalizing n with
  | nil => exact hn
  | cons act rest ih => exact ih (hn.step act)

/-- Serial numbers are given away upwards. -/
theorem compilations_step (n : Normalizer) (act : Act) :
    n.compilations ≤ (n.step act).2.compilations := by
  rcases n.step_cases act with ⟨registry, -, hafter, -, -⟩ | ⟨other, -, hafter, -, -⟩ |
    ⟨language, c, -, hcompiled, -, -⟩
  · rw [hafter]
  · rw [hafter]
    exact Nat.le_refl _
  · rcases compiled_cases hcompiled with ⟨-, hafter⟩ | ⟨_, -, -, -, -, -, hafter⟩
    · rw [hafter]
    · rw [hafter]
      exact Nat.le_succ _

section Runs

variable {n : Normalizer} {code : String} {c : Compiled}

theorem Coded.serial_lt (hn : n.Coded) (h : n.current? code = some c) :
    c.serial < n.compilations := by
  obtain ⟨entry, -, hkept⟩ := Option.bind_eq_some_iff.mp h
  obtain ⟨hlookup, -⟩ := Option.filter_eq_some_iff.mp hkept
  obtain ⟨before, after, hlexicons, -⟩ := List.lookup_eq_some_iff.mp hlookup
  exact (hn.kept code c (by rw [hlexicons]; simp)).2.2

/-- A lexicon that is not current any more, with its serial number given away. -/
def IsGone (n : Normalizer) (code : String) (c : Compiled) : Prop :=
  c.serial < n.compilations ∧ ∀ d, n.current? code = some d → d.serial ≠ c.serial

/-- A lexicon that is gone does not come back. -/
theorem IsGone.step (hn : n.Faithful) (h : n.IsGone code c) (act : Act) :
    (n.step act).2.IsGone code c := by
  obtain ⟨hserial, hgone⟩ := h
  refine ⟨Nat.lt_of_lt_of_le hserial (n.compilations_step act), fun d hd => ?_⟩
  obtain ⟨hreset, hkept⟩ := current?_step hn act code
  by_cases hcode : n.Resets code act
  · rw [hreset hcode] at hd
    cases hd
  · rcases hkept hcode with hsame | ⟨e, hgiven, hcurrent⟩
    · exact hgone d (hsame ▸ hd)
    · obtain rfl := Option.some.inj (hcurrent.symm.trans hd)
      rcases given?_cases hgiven with hold | ⟨-, hnew⟩
      · exact hgone e hold
      · omega

theorem IsGone.behind (hn : n.Faithful) (h : n.IsGone code c) (acts : List Act) :
    (n.behind acts).IsGone code c := by
  induction acts generalizing n with
  | nil => exact h
  | cons act rest ih => exact ih (hn.step act) (h.step hn act)

/-- A current lexicon stays current until its code is reset. -/
theorem current?_kept (hn : n.Faithful) (h : n.current? code = some c) {act : Act}
    (hact : ¬ n.Resets code act) : (n.step act).2.current? code = some c := by
  rcases (current?_step hn act code).2 hact with hsame | ⟨d, hgiven, hcurrent⟩
  · rw [hsame, h]
  · rcases given?_cases hgiven with hold | ⟨hnone, -⟩
    · rw [hcurrent, ← hold, h]
    · rw [hnone] at h
      cases h

/-- Behind a row of calls a lexicon is current if its code was not reset, and gone otherwise. -/
theorem current?_behind (hn : n.Faithful) (hcoded : n.Coded) (h : n.current? code = some c)
    (acts : List Act) :
    (¬ n.ResetsIn code acts → (n.behind acts).current? code = some c) ∧
      (n.ResetsIn code acts → (n.behind acts).IsGone code c) := by
  induction acts generalizing n with
  | nil => exact ⟨fun _ => h, fun hreset => hreset.elim⟩
  | cons act rest ih =>
    by_cases hact : n.Resets code act
    · refine ⟨fun hnone => absurd (Or.inl hact) hnone, fun _ => ?_⟩
      have hserial := Nat.lt_of_lt_of_le (hcoded.serial_lt h) (n.compilations_step act)
      have hgone : (n.step act).2.IsGone code c := by
        refine ⟨hserial, fun d hd => ?_⟩
        rw [(current?_step hn act code).1 hact] at hd
        cases hd
      exact hgone.behind (hn.step act) rest
    · obtain ⟨hstays, hgoes⟩ := ih (hn.step act) (hcoded.step act) (current?_kept hn h hact)
      exact ⟨fun hnone => hstays fun hrest => hnone (Or.inr hrest),
        fun hreset => hgoes (hreset.resolve_left hact)⟩

end Runs

/-- A call that fails leaves the lexicons as they are. -/
theorem step_failed {n : Normalizer} {act : Act} {failure : Failure}
    (h : (n.step act).1 = .failed failure) : (n.step act).2.lexicons = n.lexicons := by
  have hregister (pack : Except PackFault LanguagePack) :
      (n.stepRegister pack).2.lexicons = n.lexicons := by
    obtain ⟨registry, -, hafter⟩ := n.stepRegister_accepted pack
    rw [hafter]
  have hlookup {α : Type} {answer : α → Answer} (hanswer : ∀ a, answer a ≠ .failed failure)
      (found : Except Failure (α × Normalizer)) (h : (n.stepLookup answer found).1 = .failed failure) :
      (n.stepLookup answer found).2.lexicons = n.lexicons := by
    cases found with
    | error failure => rfl
    | ok found => exact absurd h (hanswer found.1)
  cases act with
  | register pack => exact hregister _
  | registerText text => exact hregister _
  | loadDirectory disk directory => rfl
  | invalidate language => cases h
  | compiled language => exact hlookup (fun _ h => by cases h) _ h
  | normalize transcript language => exact hlookup (fun _ h => by cases h) _ h

/-- In every session a call is given the same lexicon as an earlier call on the same code exactly
when the code was not reset between them. Kept lexicons are of registered languages and of the code
that they are kept under, and a call that fails leaves them as they are. -/
theorem session_keeps (before : List Act) :
    (∀ code c, (code, c) ∈ (behind {} before).lexicons →
      code ∈ (behind {} before).registry.codes ∧ c.lexicon.pack.code = code) ∧
    (∀ act failure, ((behind {} before).step act).1 = .failed failure →
      ((behind {} before).step act).2.lexicons = (behind {} before).lexicons) ∧
    ∀ first between second code c d,
      (behind {} before).given? first = some (code, c) →
      (((behind {} before).step first).2.behind between).given? second = some (code, d) →
      (d.serial = c.serial ↔ ¬ ((behind {} before).step first).2.ResetsIn code between) ∧
        (d.serial = c.serial → d = c) := by
  have hfaithful : (behind {} before).Faithful := faithful_new.behind before
  have hcoded : (behind {} before).Coded := coded_new.behind before
  refine ⟨?_, fun act failure => step_failed, ?_⟩
  · intro code c hc
    obtain ⟨hsome, hcode, -⟩ := hcoded.kept code c hc
    exact ⟨Registry.mem_codes hsome, hcode⟩
  · intro first between second code c d hfirst hsecond
    have hcurrent := current?_given hfirst
    obtain ⟨hstays, hgoes⟩ := current?_behind (hfaithful.step first) (hcoded.step first) hcurrent
      between
    by_cases hreset : ((behind {} before).step first).2.ResetsIn code between
    · obtain ⟨hserial, hgone⟩ := hgoes hreset
      have hother : d.serial ≠ c.serial := by
        rcases given?_cases hsecond with hold | ⟨-, hnew⟩
        · exact hgone d hold
        · omega
      exact ⟨⟨fun h => absurd h hother, fun h => absurd hreset h⟩, fun h => absurd h hother⟩
    · have hsame : d = c := by
        rcases given?_cases hsecond with hold | ⟨hnone, -⟩
        · rw [hstays hreset] at hold
          exact (Option.some.inj hold).symm
        · rw [hstays hreset] at hnone
          cases hnone
      exact ⟨⟨fun _ => hreset, fun _ => by rw [hsame]⟩, fun _ => hsame⟩

/-- Asked for again, English is given the same lexicon, but another one when it was dropped. -/
theorem session_keeps_english : ∃ c d e,
    (behind {} [.register english]).given? (.compiled " EN ") = some ("en", c) ∧
    (((behind {} [.register english]).step (.compiled " EN ")).2.behind
      [.normalize "2" "en"]).given? (.compiled "En") = some ("en", d) ∧
    (((behind {} [.register english]).step (.compiled " EN ")).2.behind
      [.invalidate "EN"]).given? (.compiled "En") = some ("en", e) ∧
    d = c ∧ e.serial ≠ c.serial := by
  have hgiven (found : Option (String × Compiled)) (h : found.map (·.1) = some "en") :
      ∃ c, found = some ("en", c) := by
    obtain ⟨⟨code, c⟩, rfl, rfl⟩ := Option.map_eq_some_iff.mp h
    exact ⟨c, rfl⟩
  obtain ⟨c, hc⟩ := hgiven ((behind {} [.register english]).given? (.compiled " EN "))
    (by decide +kernel)
  obtain ⟨d, hd⟩ := hgiven ((((behind {} [.register english]).step
    (.compiled " EN ")).2.behind [.normalize "2" "en"]).given? (.compiled "En")) (by decide +kernel)
  obtain ⟨e, he⟩ := hgiven ((((behind {} [.register english]).step
    (.compiled " EN ")).2.behind [.invalidate "EN"]).given? (.compiled "En")) (by decide +kernel)
  have hcode : LanguageCode.normalize "EN" = "en" := by decide +kernel
  have hkeeps := (session_keeps [.register english]).2.2 (.compiled " EN ")
  refine ⟨c, d, e, hc, hd, he, ?_, ?_⟩
  · obtain ⟨hiff, hsame⟩ := hkeeps [.normalize "2" "en"] (.compiled "En") "en" c d hc hd
    exact hsame (hiff.mpr (by simp [ResetsIn, Resets, registered, Registry.codesOf, dropped?]))
  · obtain ⟨hiff, -⟩ := hkeeps [.invalidate "EN"] (.compiled "En") "en" c e hc he
    exact fun hserial => hiff.mp hserial (Or.inl (Or.inr (congrArg some hcode)))

end Normalizer

end CalcSpeech
