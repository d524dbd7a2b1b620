import CalcSpeech.Language.English
import CalcSpeech.Language.French
import CalcSpeech.Language.Spanish
import CalcSpeech.Language.Portuguese
import CalcSpeech.Language.German
import CalcSpeech.Language.Italian

/-!
# Built-in languages

The packs that every registry starts with.
-/

namespace CalcSpeech

/-- The built-in language packs, in the order in which they are registered. -/
def builtinPacks : List LanguagePack := [english, french, spanish, portuguese, german, italian]

end CalcSpeech
