import CalcSpeech.Json.Basic
import CalcSpeech.Language.Pack

/-!
# Language packs as JSON

The record that a pack is written as. It gives every field, also one that is empty, in the order
in which the fields are declared.
-/

namespace CalcSpeech

/-- A list of texts. -/
def Json.texts (items : List String) : Json := .list (items.map .text)

/-- A phrase as a record of its verbs and its connectives. -/
def PhraseTemplate.toJson (t : PhraseTemplate) : Json :=
  .record [("verbs", Json.texts t.verbs), ("connectives", Json.texts t.connectives)]

namespace LanguagePack

/-- The fields of a pack with their names. -/
def jsonFields (pack : LanguagePack) : List (String × Json) :=
  [("code", .text pack.code), ("name", .text pack.name),
    ("decimal_separator", .text pack.decimalMark.name),
    ("numbers", .record (pack.numbers.map fun (word, digits) => (word, .text digits)))] ++
  WordList.all.map (fun list => (list.name, Json.texts (pack.words list))) ++
  [("phrases", .record (PhraseKind.all.map fun kind => (kind.name, (pack.phrases kind).toJson)))]

/-- A pack as a record. -/
def toJson (pack : LanguagePack) : Json := .record pack.jsonFields

end LanguagePack

end CalcSpeech
