import CalcSpeech.Json.Decode
import CalcSpeech.Language.Pack

/-!
# Language packs as text

A pack is written as a JSON record, or as the list of its fields. Every field may be missing, and
is then empty.
-/

namespace CalcSpeech

open Json

/-- The mark of a name. -/
def DecimalMark.ofName? (name : String) : Except Fault DecimalMark :=
  if name = DecimalMark.period.name then .ok .period
  else if name = DecimalMark.comma.name then .ok .comma
  else .error .unfit

/-- A decimal mark: its name, or a record with its name and null. -/
def DecimalMark.decode : Draft → Except Fault DecimalMark
  | .text (some name) => ofName? name
  | .record ((name, value) :: rest) closed => do
    let name ← Draft.fieldName name
    let mark ← ofName? name
    value.asNull
    if closed && rest.isEmpty then return mark else throw .malformed
  | _ => .error .malformed

/-- The fields of a phrase. -/
def PhraseTemplate.fields : Fields PhraseTemplate :=
  [("verbs", fun t d => do return { t with verbs := ← d.asTexts }),
    ("connectives", fun t d => do return { t with connectives := ← d.asTexts })]

/-- A phrase. -/
def PhraseTemplate.decode : Draft → Except Fault PhraseTemplate :=
  PhraseTemplate.fields.decode [] {}

/-- The phrases with one of them set. -/
def setPhrase (kind : PhraseKind) (template : PhraseTemplate)
    (phrases : PhraseKind → PhraseTemplate) : PhraseKind → PhraseTemplate :=
  fun other => if other = kind then template else phrases other

/-- The fields of the phrases of a language. -/
def phraseFields : Fields (PhraseKind → PhraseTemplate) :=
  PhraseKind.all.map fun kind =>
    (kind.name, fun phrases d => do return setPhrase kind (← PhraseTemplate.decode d) phrases)

namespace LanguagePack

/-- The field of a word list. -/
def wordField (list : WordList) :
    String × (LanguagePack → Draft → Except Fault LanguagePack) :=
  (list.name, fun pack d => do
    let texts ← d.asTexts
    return { pack with words := fun other => if other = list then texts else pack.words other })

/-- The fields of a pack. -/
def fields : Fields LanguagePack :=
  [("code", fun pack d => do return { pack with code := ← d.asText }),
    ("name", fun pack d => do return { pack with name := ← d.asText }),
    ("decimal_separator", fun pack d => do
      return { pack with decimalMark := ← DecimalMark.decode d }),
    ("numbers", fun pack d => do return { pack with numbers := sortNumbers (← d.asTextFields) })] ++
  WordList.all.map wordField ++
  [("phrases", fun pack d => do
    return { pack with phrases := ← phraseFields.decode [] (fun _ => {}) d })]

/-- Reads a pack without asking whether it is valid. -/
def ofText? (text : String) : Except Fault LanguagePack := decodeText (fields.decode [] {}) text

/-- Reads a valid pack. -/
def ofText (text : String) : Except PackFault LanguagePack :=
  match ofText? text with
  | .error .malformed => .error (.unreadable "not a JSON text")
  | .error .unfit => .error (.unreadable "not a language pack")
  | .ok pack =>
    match pack.fault? with
    | some fault => .error fault
    | none => .ok pack

end LanguagePack

end CalcSpeech
