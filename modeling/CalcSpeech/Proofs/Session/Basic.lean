import CalcSpeech.Files.FileTree
import CalcSpeech.Language.Directory
import CalcSpeech.Normalizer

/-!
# Sessions

A session is one registry and one normalizer with the calls that are made on them, one after the
other: packs are registered, lexicons are dropped, lexicons and expressions are asked for. Each
call has an answer and leaves the normalizer in some state.

A disk may change between two calls, so a call that loads a directory says on which disk.
-/

namespace CalcSpeech

/-- A call on a registry or on its normalizer. -/
inductive Act where
  /-- registers a pack -/
  | register (pack : LanguagePack)
  /-- reads a pack from a text and registers it -/
  | registerText (text : String)
  /-- registers every pack in a directory -/
  | loadDirectory (disk : Disk) (directory : String)
  /-- drops the lexicon of a language -/
  | invalidate (language : String)
  /-- asks for the lexicon of a language -/
  | compiled (language : String)
  /-- asks for the expression of a transcript -/
  | normalize (transcript language : String)

/-- What a call comes to. -/
inductive Answer where
  | done
  | loaded (count : Nat)
  | failed (failure : Failure)
  | lexicon (lexicon : Lexicon) (registration : Nat)
  | expression (text : String)

namespace Normalizer

/-- The outcome of registering a pack that was handed over or could not be read. -/
def stepRegister (n : Normalizer) (pack : Except PackFault LanguagePack) : Answer × Normalizer :=
  match pack.bind n.registry.register with
  | .error fault => (.failed (.languagePack fault), n)
  | .ok registry => (.done, { n with registry })

/-- The outcome of loading a directory; packs before a failure stay registered. -/
def stepLoad (n : Normalizer) (disk : Disk) (directory : String) : Answer × Normalizer :=
  let loading : Registry.Loading :=
    ((n.registry.loadDirectory directory : StateM Disk Registry.Loading).run disk).1
  let answer := match loading.failure with
    | some failure => .failed failure
    | none => .loaded loading.loaded.length
  (answer, { n with registry := loading.registry })

/-- The outcome of asking for something that needs a lexicon; a failure changes nothing. -/
def stepLookup {α : Type} (n : Normalizer) (answer : α → Answer)
    (found : Except Failure (α × Normalizer)) : Answer × Normalizer :=
  match found with
  | .error failure => (.failed failure, n)
  | .ok (value, n) => (answer value, n)

/-- The answer to a call, and the normalizer behind it. -/
def step (n : Normalizer) : Act → Answer × Normalizer
  | .register pack => n.stepRegister (.ok pack)
  | .registerText text => n.stepRegister (LanguagePack.ofText text)
  | .loadDirectory disk directory => n.stepLoad disk directory
  | .invalidate language => (.done, n.invalidate language)
  | .compiled language =>
    n.stepLookup (fun c : Compiled => .lexicon c.lexicon c.registration) (n.compiled language)
  | .normalize transcript language =>
    n.stepLookup .expression (n.normalize transcript language)

/-- The answers to a row of calls. -/
def answers (n : Normalizer) : List Act → List Answer
  | [] => []
  | act :: rest => (n.step act).1 :: answers (n.step act).2 rest

/-- The normalizer behind a row of calls. -/
def behind (n : Normalizer) : List Act → Normalizer
  | [] => n
  | act :: rest => behind (n.step act).2 rest

/-- A new normalizer over the registry of this one. -/
def renewed (n : Normalizer) : Normalizer := { registry := n.registry }

/-- The answers to a row of calls when each is put to a new normalizer over the registry as it
then is. -/
def renewedAnswers (n : Normalizer) : List Act → List Answer
  | [] => []
  | act :: rest => (n.renewed.step act).1 :: renewedAnswers (n.step act).2 rest

end Normalizer

end CalcSpeech
