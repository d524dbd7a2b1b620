import CalcSpeech.Language.Builtin
import CalcSpeech.Proofs.Language.Code
import CalcSpeech.Proofs.Session.Identity

/-!
# What a locale is resolved to

The code that a pack is registered under is in its normal form and is the code of the pack, whatever
was registered before (`keyed_behind`). So a registered code is resolved to itself
(`resolve_of_mem_codes`). Any other locale is resolved to the default, or to a registered code with
blanks behind it (`resolve_parts`): the code is found with the blanks that stand in front of a hyphen
or an underscore of the locale, and the answer is cut out of the locale with them. No blanks there,
and the answer is a code (`resolve_mem_codes`).
-/

namespace CalcSpeech

open Unicode

namespace Registry

/-- Every registered code is in its normal form and is the code of its pack. -/
def Keyed (registry : Registry) : Prop :=
  ∀ code entry, registry.find? code = some entry →
    LanguageCode.normalize code = code ∧ entry.pack.code = code

theorem keyed_empty : Keyed {} := by
  intro code entry h
  simp [find?] at h

/-- Registering puts a pack under the normal form of its code. -/
theorem Keyed.register {registry after : Registry} (h : registry.Keyed) {pack : LanguagePack}
    (hafter : registry.register pack = .ok after) : after.Keyed := by
  intro code entry hentry
  rw [(find?_register hafter code).2] at hentry
  split at hentry
  · rename_i hcode
    obtain rfl := Option.some.inj hentry
    rw [hcode]
    exact ⟨LanguageCode.normalize_normalize _, rfl⟩
  · exact h code entry hentry

/-- The codes are those under which something is found. -/
theorem mem_codes_iff {registry : Registry} {code : String} :
    code ∈ registry.codes ↔ (registry.find? code).isSome = true := by
  refine ⟨fun h => ?_, mem_codes⟩
  rw [codes, mem_foldr_insertSorted] at h
  obtain ⟨⟨name, entry⟩, hmem, rfl⟩ := List.mem_map.mp h
  cases hfind : registry.find? name with
  | some found => rfl
  | none =>
    have hne := List.lookup_eq_none_iff.mp hfind (name, entry) hmem
    simp at hne

/-- A registered code is found with its pack, which has that code. -/
theorem Keyed.exists_entry {registry : Registry} (h : registry.Keyed) {code : String}
    (hcode : code ∈ registry.codes) :
    LanguageCode.normalize code = code ∧
      ∃ entry, registry.get? code = some entry ∧ entry.pack.code = code := by
  obtain ⟨entry, hentry⟩ := Option.isSome_iff_exists.mp (mem_codes_iff.mp hcode)
  obtain ⟨hnormal, hown⟩ := h code entry hentry
  exact ⟨hnormal, entry, by rw [get?, hnormal, hentry], hown⟩

/-- A registered code is resolved to itself. -/
theorem Keyed.resolve_code {registry : Registry} (h : registry.Keyed) {code : String}
    (hcode : code ∈ registry.codes) (default : String) : registry.resolve code default = code := by
  obtain ⟨hnormal, entry, hentry, -⟩ := h.exists_entry hcode
  have hcontains : registry.contains code = true := by rw [contains, hentry, Option.isSome_some]
  rw [resolve, resolve?, hnormal, if_pos hcontains, Option.getD_some]

/-! ## The first part of a locale -/

/-- A code in its normal form is in lowercase and has no blanks at its ends. -/
theorem small_normalize (code : String) :
    (∀ c ∈ (LanguageCode.normalize code).toList, IsSmall c) ∧
      (LanguageCode.normalize code).toList.head?.any isBlank = false := by
  obtain ⟨hhead, hlast⟩ := Text.ends_trim code.toList
  unfold LanguageCode.normalize lowercaseString Text.trimString
  rw [String.toList_ofList, String.toList_ofList]
  refine ⟨isSmall_lowercase [], ?_⟩
  rw [← trim_lowercase hhead hlast]
  exact (Text.ends_trim _).1

/-- What a normal form begins with is brought to its normal form by dropping the blanks behind
it. -/
theorem exists_blanks (code : String) (p : Char → Bool) :
    ∃ blanks, (∀ c ∈ blanks, isBlank c = true) ∧
      (LanguageCode.normalize code).toList.takeWhile p =
        (LanguageCode.normalize (String.ofList
          ((LanguageCode.normalize code).toList.takeWhile p))).toList ++ blanks := by
  obtain ⟨hsmall, hhead⟩ := small_normalize code
  generalize (LanguageCode.normalize code).toList = text at hsmall hhead
  obtain ⟨lead, trail, hparts, hlead, htrail⟩ := Text.exists_trim (text.takeWhile p)
  -- nothing leads the first part, as no blank leads the whole
  have hnone : lead = [] := by
    cases lead with
    | nil => rfl
    | cons c rest =>
      obtain ⟨behind, hbehind⟩ := List.takeWhile_prefix p (l := text)
      have hfirst : text.head? = some c := by
        rw [← hbehind, hparts]
        rfl
      rw [hfirst, Option.any_some, hlead c List.mem_cons_self] at hhead
      cases hhead
  rw [hnone, List.nil_append] at hparts
  have hkept : ∀ c ∈ Text.trim (text.takeWhile p), IsSmall c := by
    intro c hc
    apply hsmall
    have hmem : c ∈ text.takeWhile p := by
      rw [hparts]
      exact List.mem_append_left _ hc
    exact (List.takeWhile_prefix p).subset hmem
  refine ⟨trail, htrail, ?_⟩
  unfold LanguageCode.normalize lowercaseString Text.trimString
  rw [String.toList_ofList, String.toList_ofList, String.toList_ofList, lowercase,
    lowercaseAfter_of_small hkept]
  exact hparts

/-- A locale is resolved to the default, or to a registered code, possibly with blanks behind it:
those at the end of its first part. -/
theorem resolve_parts (registry : Registry) (locale default : String) :
    registry.resolve locale default = default ∨
      ∃ code ∈ registry.codes, ∃ blanks : List Char, (∀ c ∈ blanks, isBlank c = true) ∧
        (registry.resolve locale default).toList = code.toList ++ blanks ∧
        (blanks ≠ [] → registry.resolve locale default =
          primaryPart (LanguageCode.normalize locale)) := by
  unfold resolve resolve?
  simp only
  split
  · rename_i hwhole
    rw [contains, get?, LanguageCode.normalize_normalize] at hwhole
    refine Or.inr ⟨_, mem_codes_iff.mpr hwhole, [], by simp, ?_, by simp⟩
    rw [List.append_nil, Option.getD_some]
  · split
    · rename_i hfirst
      obtain ⟨blanks, hblanks, hparts⟩ := exists_blanks locale fun c => c != '-' && c != '_'
      refine Or.inr ⟨_, mem_codes_iff.mpr hfirst.2, blanks, hblanks, ?_, fun _ => rfl⟩
      rw [Option.getD_some, primaryPart, String.toList_ofList]
      exact hparts
    · exact Or.inl rfl

end Registry

namespace Normalizer

open Registry

/-- The packs that a call registers are all that it does to the registry. -/
theorem registerAll_registered (n : Normalizer) (act : Act) :
    n.registry.registerAll (n.registered act) = .ok (n.step act).2.registry := by
  rcases n.step_cases act with ⟨registry, hall, hafter, -, -⟩ | ⟨code, -, hafter, hnone, -⟩ |
    ⟨language, c, -, hcompiled, hnone, -⟩
  · rw [hafter]
    exact hall
  · rw [hafter, hnone]
    rfl
  · rw [hnone]
    rcases compiled_cases hcompiled with ⟨-, hafter⟩ | ⟨entry, -, -, -, -, -, hafter⟩ <;>
    · rw [hafter]
      rfl

/-- Whatever is called, the registered codes are in their normal form and those of their packs. -/
theorem keyed_behind (acts : List Act) {n : Normalizer} (h : n.registry.Keyed) :
    (n.behind acts).registry.Keyed := by
  induction acts generalizing n with
  | nil => exact h
  | cons act rest ih =>
    exact ih (registerAll_keeps (fun _ _ _ hafter hkeyed => hkeyed.register hafter)
      (n.registerAll_registered act) h)

/-- Behind any calls a registered code is resolved to itself, and the pack that is found under it
has it for its code. -/
theorem resolve_of_mem_codes (acts : List Act) {code : String}
    (hcode : code ∈ (behind {} acts).registry.codes) (default : String) :
    (behind {} acts).registry.resolve code default = code ∧
      ∃ entry, (behind {} acts).registry.get? code = some entry ∧ entry.pack.code = code :=
  have hkeyed := keyed_behind acts (n := {}) keyed_empty
  ⟨hkeyed.resolve_code hcode default, (hkeyed.exists_entry hcode).2⟩

end Normalizer

namespace Registry

/-- A locale whose first part does not end in a blank is resolved to a registered code or to the
default. -/
theorem resolve_mem_codes {registry : Registry} {locale : String}
    (h : (primaryPart (LanguageCode.normalize locale)).toList.getLast?.any isBlank = false)
    (default : String) :
    registry.resolve locale default ∈ registry.codes ∨
      registry.resolve locale default = default := by
  rcases registry.resolve_parts locale default with hdefault | ⟨code, hcode, blanks, hblanks, heq, hcut⟩
  · exact Or.inr hdefault
  · by_cases hnone : blanks = []
    · rw [hnone, List.append_nil] at heq
      rw [String.toList_inj.mp heq]
      exact Or.inl hcode
    · rw [← hcut hnone, heq, List.getLast?_append_of_ne_nil _ hnone,
        List.getLast?_eq_some_getLast hnone, Option.any_some,
        hblanks _ (List.getLast_mem hnone)] at h
      cases h

/-- In front of a hyphen a blank stays: the answer is no registered code. -/
example : Registry.resolve ⟨[("fr", ⟨french, 0⟩)], 1⟩ "fr -CA" "fr" = "fr " ∧
    "fr " ∉ Registry.codes ⟨[("fr", ⟨french, 0⟩)], 1⟩ := by
  decide +kernel

end Registry

end CalcSpeech
