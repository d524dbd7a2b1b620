import CalcSpeech.Files.FileSystem
import CalcSpeech.Language.PackText
import CalcSpeech.Language.Registry

/-!
# Directories of language packs

Every plain file with the extension `json` in a directory is a language pack. The packs are
registered in the order of their names, and the first that cannot be read or is not valid ends the
reading. Those before it stay registered.
-/

namespace CalcSpeech.Registry

/-- A registry with the packs that were read into it, each by its path, and what ended the
reading before its time. -/
structure Loading where
  registry : Registry
  loaded : List (String × LanguagePack) := []
  failure : Option Failure := none

/-- Registers the pack in the bytes of a file. -/
def registerBytes (registry : Registry) (bytes : Option ByteArray) :
    Except Failure (LanguagePack × Registry) := do
  match bytes.bind String.fromUTF8? with
  | none => throw (.io "the file cannot be read")
  | some text =>
    let pack ← (LanguagePack.ofText text).mapError .languagePack
    let registry ← (registry.register pack).mapError .languagePack
    return (pack, registry)

variable {m : Type → Type} [Monad m] [FileSystem m]

/-- Registers the packs in a row of files. -/
def loadFiles (loading : Loading) : List String → m Loading
  | [] => return loading
  | path :: rest => do
    match loading.registry.registerBytes (← FileSystem.read? path) with
    | .error failure => return { loading with failure := some failure }
    | .ok (pack, registry) =>
      loadFiles { loading with registry, loaded := loading.loaded ++ [(path, pack)] } rest

/-- The paths of the plain files among names in a directory, in the order of their names. -/
def packPaths (directory : String) : List String → m (List String)
  | [] => return []
  | name :: rest => do
    let path := Path.join directory name
    let paths ← packPaths directory rest
    if (← FileSystem.kind? path) = some .file ∧ Path.hasExtension name "json" then
      return path :: paths
    else return paths

/-- Registers every pack in a directory. -/
def loadDirectory (registry : Registry) (directory : String) : m Loading := do
  match ← FileSystem.names? directory with
  | none => return { registry, failure := some (.io "the directory cannot be read") }
  | some names =>
    let paths ← packPaths directory (names.foldr insertSorted [])
    loadFiles { registry } paths

end CalcSpeech.Registry
