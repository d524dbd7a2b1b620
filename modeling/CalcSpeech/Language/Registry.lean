import CalcSpeech.Failure

/-!
# Language registries

A registry holds one pack for each language code. Registering a code again puts a new pack in the
place of the old one, and each registration has a number of its own, by which a user of a pack can
tell that it was replaced.
-/

namespace CalcSpeech

/-- A pack as it is registered, with the number of its registration. -/
structure Registered where
  pack : LanguagePack
  registration : Nat

/-- The packs registered under their codes. -/
structure Registry where
  entries : List (String × Registered) := []
  registrations : Nat := 0

namespace Registry

/-- Puts an entry in the place of the one with its code, or at the end. -/
def replace (code : String) (entry : Registered) :
    List (String × Registered) → List (String × Registered)
  | [] => [(code, entry)]
  | (other, old) :: rest =>
    if other = code then (code, entry) :: rest else (other, old) :: replace code entry rest

/-- The pack under a code in its normal form. -/
def find? (registry : Registry) (code : String) : Option Registered := registry.entries.lookup code

/-- The pack under a code, in any case and with blanks around it. -/
def get? (registry : Registry) (code : String) : Option Registered :=
  registry.find? (LanguageCode.normalize code)

/-- Whether a code is registered, in any case and with blanks around it. -/
def contains (registry : Registry) (code : String) : Bool := (registry.get? code).isSome

/-- Registers a pack under the normal form of its code. -/
def register (registry : Registry) (pack : LanguagePack) : Except PackFault Registry :=
  match pack.fault? with
  | some fault => .error fault
  | none =>
    let code := LanguageCode.normalize pack.code
    .ok {
      entries := replace code ⟨{ pack with code }, registry.registrations⟩ registry.entries
      registrations := registry.registrations + 1 }

/-- Registers packs in order, up to the first that is not valid. -/
def registerAll (registry : Registry) (packs : List LanguagePack) : Except PackFault Registry :=
  packs.foldlM register registry

/-- Puts a name in its place among names in ascending order. -/
def insertSorted (name : String) : List String → List String
  | [] => [name]
  | other :: rest => if name < other then name :: other :: rest else other :: insertSorted name rest

/-- The registered codes in ascending order. -/
def codes (registry : Registry) : List String :=
  (registry.entries.map (·.1)).foldr insertSorted []

/-- How many languages are registered. -/
def size (registry : Registry) : Nat := registry.entries.length

/-- The first part of a locale, in front of a hyphen or an underscore. -/
def primaryPart (locale : String) : String :=
  String.ofList (locale.toList.takeWhile fun c => c != '-' && c != '_')

/-- The registered code for a locale: the locale itself, or its first part. -/
def resolve? (registry : Registry) (locale : String) : Option String :=
  let locale := LanguageCode.normalize locale
  let primary := primaryPart locale
  if registry.contains locale then some locale
  else if primary ≠ "" ∧ registry.contains primary then some primary
  else none

/-- The language code for a locale, or the given default for an unknown one. -/
def resolve (registry : Registry) (locale default : String) : String :=
  (registry.resolve? locale).getD default

end Registry

end CalcSpeech
