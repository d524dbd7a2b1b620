import CalcSpeech.Language.Builtin
import CalcSpeech.Language.Registry
import CalcSpeech.Stage

/-!
# Normalizers

A normalizer turns transcripts into expressions by the packs of a registry. It makes the lexicon
of a language when it is first asked for and keeps it as long as the pack it was made from is the
registered one.
-/

namespace CalcSpeech

/-- A lexicon as it is kept, with the number of the registration it was made from and a number of
its own. -/
structure Compiled where
  lexicon : Lexicon
  registration : Nat
  serial : Nat

/-- A registry with the lexicons made so far. -/
structure Normalizer where
  registry : Registry := {}
  lexicons : List (String × Compiled) := []
  compilations : Nat := 0

namespace Normalizer

/-- The lexicon kept under a code, if it was made from this registration. -/
def kept? (n : Normalizer) (code : String) (registration : Nat) : Option Compiled :=
  (n.lexicons.lookup code).filter (·.registration == registration)

/-- Drops the lexicon kept under a code. -/
def forget (n : Normalizer) (code : String) : Normalizer :=
  { n with lexicons := n.lexicons.filter (·.1 != code) }

/-- Drops the lexicon of a language, so that it is made anew when next asked for. -/
def invalidate (n : Normalizer) (language : String) : Normalizer :=
  n.forget (LanguageCode.normalize language)

/-- Makes the lexicon of a registered pack and keeps it. -/
def compile (n : Normalizer) (code : String) (entry : Registered) :
    Except Failure (Compiled × Normalizer) :=
  match Lexicon.ofPack entry.pack with
  | .error fault => .error (.languagePack fault)
  | .ok lexicon =>
    let compiled := ⟨lexicon, entry.registration, n.compilations⟩
    .ok (compiled,
      { n with
        lexicons := (code, compiled) :: (n.forget code).lexicons
        compilations := n.compilations + 1 })

/-- The lexicon of a language, with the normalizer that has kept it. -/
def compiled (n : Normalizer) (language : String) : Except Failure (Compiled × Normalizer) :=
  let code := LanguageCode.normalize language
  match n.registry.find? code with
  | none => .error (.unsupportedLanguage language)
  | some entry =>
    match n.kept? code entry.registration with
    | some compiled => .ok (compiled, n)
    | none => n.compile code entry

/-- The expression for a transcript in a language, with the normalizer that has kept its
lexicon. -/
def normalize (n : Normalizer) (transcript language : String) :
    Except Failure (String × Normalizer) :=
  (n.compiled language).map fun (compiled, n) => (compiled.lexicon.normalizeString transcript, n)

end Normalizer

end CalcSpeech
