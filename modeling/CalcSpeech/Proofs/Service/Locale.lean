import CalcSpeech.Proofs.Language.Code
import CalcSpeech.Proofs.Lexicon
import CalcSpeech.Service.Router

/-!
# Locales

A locale is free text of the client's. Whatever it is, the language that it is resolved to is
registered, each part that is handed its code finds the same pack under it, and the pack has a
lexicon if its number words have no value too large. So no locale makes a request fail
(`locale_answered`).
-/

namespace CalcSpeech

namespace Registry

variable {registry : Registry} {code default : String}

/-- A code is found whether or not it was brought to its normal form before. -/
theorem get?_normalize (registry : Registry) (code : String) :
    registry.get? (LanguageCode.normalize code) = registry.get? code := by
  rw [get?, LanguageCode.normalize_normalize, get?]

/-- A locale is resolved to a registered code. -/
theorem contains_resolve (h : registry.contains default = true) (locale : String) :
    registry.contains (registry.resolve locale default) = true := by
  unfold resolve resolve?
  simp only
  split
  · assumption
  · split
    · rename_i hprimary
      exact hprimary.2
    · exact h

end Registry

namespace Normalizer

variable {n : Normalizer}
  (hvalues : ∀ code entry, n.registry.find? code = some entry →
    ∀ d ∈ entry.pack.numbers.map (·.2), IsValue d.toList)

include hvalues

/-- A registered language has a lexicon, kept or made. -/
theorem exists_compiled {language : String} (h : n.registry.contains language = true) :
    ∃ found, n.compiled language = .ok found := by
  obtain ⟨entry, hentry⟩ := Option.isSome_iff_exists.mp h
  have hfind : n.registry.find? (LanguageCode.normalize language) = some entry := hentry
  obtain ⟨lexicon, hlexicon⟩ := Lexicon.exists_ofPack_of_values (hvalues _ entry hfind)
  unfold compiled
  simp only [hfind]
  split
  · exact ⟨_, rfl⟩
  · unfold compile
    rw [hlexicon]
    exact ⟨_, rfl⟩

/-- Every transcript in a registered language has an expression. -/
theorem exists_normalize {language : String} (h : n.registry.contains language = true)
    (transcript : String) : ∃ text after, n.normalize transcript language = .ok (text, after) := by
  obtain ⟨found, hfound⟩ := exists_compiled hvalues h
  unfold normalize
  rw [hfound]
  exact ⟨_, _, rfl⟩

end Normalizer

namespace Service

open Json

/-- No locale makes a request fail where the packs have no number word with a value too large and
the default language is registered: the code that it is resolved to is that of a registered pack
also when it is brought to its normal form on the way, every transcript has an expression, and a
request with a transcript is answered with one. -/
theorem locale_answered {n : Normalizer}
    (hvalues : ∀ code entry, n.registry.find? code = some entry →
      ∀ d ∈ entry.pack.numbers.map (·.2), IsValue d.toList)
    {default : String} (hdefault : n.registry.contains default = true) :
    (∀ requested transcript,
      (n.registry.get? (LanguageCode.normalize (n.registry.resolve requested default))).isSome ∧
      ∃ text after, n.normalize transcript (n.registry.resolve requested default) =
        .ok (text, after)) ∧
    ∀ version m request, m.method = "POST" → m.route = "/normalize" → m.declaresJson = true →
      decodePrefix NormalizeRequest.decode m.body = .ok request →
      Text.isAllBlank request.transcript.toList = false →
      ∃ text, ((State.mk n default).answer version m).1 =
        { status := 200
          body := some (.record [("status", .text "success"),
            ("language", .text (n.registry.resolve (request.language.getD default) default)),
            ("normalized", .text text)])
          requestId := some m.requestId } := by
  have hresolved (requested : String) := Registry.contains_resolve hdefault requested
  refine ⟨?_, ?_⟩
  · intro requested transcript
    refine ⟨?_, Normalizer.exists_normalize hvalues (hresolved requested) transcript⟩
    rw [Registry.get?_normalize]
    exact hresolved requested
  · intro version m request hmethod hroute hjson hrequest hspoken
    obtain ⟨text, after, htext⟩ := Normalizer.exists_normalize hvalues
      (hresolved (request.language.getD default)) request.transcript
    refine ⟨text, ?_⟩
    have hvalid : request.validate = .ok request := by
      rw [NormalizeRequest.validate, hspoken, if_neg Bool.false_ne_true]
    have hnormalize : (State.mk n default).normalize request =
        .ok (n.registry.resolve (request.language.getD default) default, text,
          ⟨after, default⟩) := by
      unfold State.normalize
      rw [hvalid]
      show (n.normalize request.transcript _ >>= _) = _
      rw [htext]
      rfl
    have hoptions : m.method ≠ "OPTIONS" := by
      rw [hmethod]
      decide
    unfold State.answer State.route State.answerNormalize
    rw [if_neg hoptions, if_pos hroute, if_pos hmethod, hjson, hrequest]
    simp only [Bool.not_true, Bool.false_eq_true, if_false, hnormalize]

/-- A service with English alone answers a request in ` EN_us `. -/
theorem locale_answered_english :
    (∀ code entry, Registry.find? ⟨[("en", ⟨english, 0⟩)], 1⟩ code = some entry →
      ∀ d ∈ entry.pack.numbers.map (·.2), IsValue d.toList) ∧
    Registry.contains ⟨[("en", ⟨english, 0⟩)], 1⟩ "en" = true ∧
    ∃ text, ((State.mk ⟨⟨[("en", ⟨english, 0⟩)], 1⟩, [], 0⟩ "en").answer "1.0"
        ⟨"POST", "/normalize", [("Content-Type", "application/json")],
          "\x7b\"transcript\": \"2\", \"language\": \" EN_us \"\x7d"⟩).1 =
      { status := 200
        body := some (.record [("status", .text "success"), ("language", .text "en"),
          ("normalized", .text text)])
        requestId := some .fresh } := by
  have hvalues : ∀ code entry, Registry.find? ⟨[("en", ⟨english, 0⟩)], 1⟩ code = some entry →
      ∀ d ∈ entry.pack.numbers.map (·.2), IsValue d.toList := by
    intro code entry hentry
    obtain ⟨before, after, hsplit, -⟩ := List.lookup_eq_some_iff.mp hentry
    have hmem : (code, entry) ∈ [("en", Registered.mk english 0)] := by
      show (code, entry) ∈ Registry.entries ⟨[("en", ⟨english, 0⟩)], 1⟩
      rw [hsplit]
      simp
    obtain ⟨-, rfl⟩ := Prod.mk.inj (List.mem_singleton.mp hmem)
    exact (isOrdinary_of_mem List.mem_cons_self : english.IsOrdinary).values
  have hcontains : Registry.contains ⟨[("en", ⟨english, 0⟩)], 1⟩ "en" = true := by decide +kernel
  have hresolve : Registry.resolve ⟨[("en", ⟨english, 0⟩)], 1⟩ " EN_us " "en" = "en" := by
    decide +kernel
  obtain ⟨text, htext⟩ := (locale_answered (n := ⟨⟨[("en", ⟨english, 0⟩)], 1⟩, [], 0⟩) hvalues
    hcontains).2 "1.0" ⟨"POST", "/normalize", [("Content-Type", "application/json")],
      "\x7b\"transcript\": \"2\", \"language\": \" EN_us \"\x7d"⟩ ⟨"2", some " EN_us "⟩ rfl
    (by decide +kernel) (by decide +kernel) (by decide +kernel) (by decide +kernel)
  refine ⟨hvalues, hcontains, text, htext.trans ?_⟩
  show Service.Answer.mk 200 (some (.record [_, ("language", .text (Registry.resolve _ " EN_us " "en")), _]))
    (some (Message.requestId _)) "*" = _
  rw [hresolve]
  rfl

end Service

end CalcSpeech
