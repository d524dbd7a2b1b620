import CalcSpeech.Json.Draft

/-!
# Taking drafts apart

A draft is taken apart into the values that a record asks for. Fields of unknown names are passed
over, a known field must not be given twice, and a record may also be given as the list of its
fields in their order, of which the last ones may be missing.
-/

namespace CalcSpeech.Json

/-- What is wrong with a text that was to be read as some record. -/
inductive Fault where
  /-- the text is no JSON -/
  | malformed
  /-- the text is JSON for something else -/
  | unfit
  deriving DecidableEq, Repr

namespace Draft

/-- The fault of a draft that is not of the kind asked for. -/
def mismatch : Draft → Fault
  | .broken | .text none | .number false => .malformed
  | _ => .unfit

mutual

/-- Whether a draft is complete, so that it can be passed over. -/
def isComplete : Draft → Bool
  | .broken => false
  | .list items closed => closed && areComplete items
  | .record fields closed => closed && fieldsAreComplete fields
  | _ => true

/-- Whether all items of a list are complete. -/
def areComplete : List Draft → Bool
  | [] => true
  | item :: rest => item.isComplete && areComplete rest

/-- Whether all fields of a record are complete. -/
def fieldsAreComplete : List (Option String × Draft) → Bool
  | [] => true
  | (_, value) :: rest => value.isComplete && fieldsAreComplete rest

end

/-- Passes over a value. -/
def skip (d : Draft) : Except Fault Unit := if d.isComplete then .ok () else .error .malformed

/-- A text. -/
def asText : Draft → Except Fault String
  | .text (some s) => .ok s
  | d => .error d.mismatch

/-- A text, or nothing for null. -/
def asTextOrNull : Draft → Except Fault (Option String)
  | .null => .ok none
  | d => d.asText.map some

/-- Nothing, for null. -/
def asNull : Draft → Except Fault Unit
  | .null => .ok ()
  | d => .error d.mismatch

/-- Ends a list or record, which must be closed here. -/
def close {α : Type} (closed : Bool) (value : α) : Except Fault α :=
  if closed then .ok value else .error .malformed

/-- A list of texts. -/
def asTexts : Draft → Except Fault (List String)
  | .list items closed => do
    let texts ← items.mapM asText
    close closed texts
  | d => .error d.mismatch

/-- The name of a field. -/
def fieldName : Option String → Except Fault String
  | some name => .ok name
  | none => .error .malformed

/-- A record of texts under any names, in the order in which they are given. -/
def asTextFields : Draft → Except Fault (List (String × String))
  | .record fields closed => do
    let texts ← fields.mapM fun (name, value) => do
      let name ← fieldName name
      let text ← value.asText
      return (name, text)
    close closed texts
  | d => .error d.mismatch

end Draft

/-- The fields of a record in the order of their declaration: the name of each, and how its value
is put into the record. -/
abbrev Fields (α : Type) := List (String × (α → Draft → Except Fault α))

namespace Fields

/-- Reads named fields; `seen` holds the names of the known fields that were read. -/
def readNamed {α : Type} (known : Fields α) :
    (seen : List String) → α → List (Option String × Draft) → Except Fault (List String × α)
  | seen, value, [] => .ok (seen, value)
  | seen, value, (name, draft) :: rest => do
    let name ← Draft.fieldName name
    match known.lookup name with
    | none =>
      draft.skip
      readNamed known seen value rest
    | some put =>
      if seen.contains name then throw .unfit
      let value ← put value draft
      readNamed known (name :: seen) value rest

/-- Reads fields by their place, with the names of those that were read. -/
def readPlaced {α : Type} :
    Fields α → (seen : List String) → α → List Draft → Except Fault (List String × α)
  | _, seen, value, [] => .ok (seen, value)
  | [], _, _, _ :: _ => .error .malformed
  | (name, put) :: known, seen, value, draft :: rest => do
    let value ← put value draft
    readPlaced known (name :: seen) value rest

/-- Reads a record, from `start`, in either form; the fields in `required` must be given. -/
def decode {α : Type} (known : Fields α) (required : List String) (start : α) :
    Draft → Except Fault α
  | .record fields closed => do
    let (seen, value) ← readNamed known [] start fields
    finish seen closed value
  | .list items closed => do
    let (seen, value) ← readPlaced known [] start items
    finish seen closed value
  | d => .error d.mismatch
where
  /-- Ends a record: it must be closed, and nothing required may be missing. -/
  finish (seen : List String) (closed : Bool) (value : α) : Except Fault α :=
    if !closed then .error .malformed
    else if required.all seen.contains then .ok value
    else .error .unfit

end Fields

/-- Reads a text that must hold one value and nothing else. -/
def decodeText {α : Type} (decode : Draft → Except Fault α) (text : String) : Except Fault α := do
  let (draft, rest) := read text
  let value ← decode draft
  if endsThere rest then return value else throw .malformed

/-- Reads the value that begins a text. -/
def decodePrefix {α : Type} (decode : Draft → Except Fault α) (text : String) : Except Fault α :=
  decode (read text).1

end CalcSpeech.Json
