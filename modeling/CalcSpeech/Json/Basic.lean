import CalcSpeech.Json.Quoted

/-!
# JSON values

The values that the service and the log write, with the one text in which they are written: no
blanks, and fields in the order in which they are given.
-/

namespace CalcSpeech

/-- A JSON value. -/
inductive Json where
  | null
  | bool (b : Bool)
  | number (n : Int)
  | text (s : String)
  | list (items : List Json)
  | record (fields : List (String × Json))

namespace Json

/-- The parts of a list or record with commas between. -/
def commaSeparated : List (List Char) → List Char
  | [] => []
  | [part] => part
  | part :: rest => part ++ ',' :: commaSeparated rest

mutual

/-- The text of a value. -/
def write : Json → List Char
  | null => "null".toList
  | bool b => (if b then "true" else "false").toList
  | number n => (toString n).toList
  | text s => quote s.toList
  | list items => '[' :: commaSeparated (writeItems items) ++ [']']
  | record fields => '{' :: commaSeparated (writeFields fields) ++ ['}']

/-- The texts of the items of a list. -/
def writeItems : List Json → List (List Char)
  | [] => []
  | item :: rest => item.write :: writeItems rest

/-- The texts of the fields of a record. -/
def writeFields : List (String × Json) → List (List Char)
  | [] => []
  | (name, value) :: rest => (quote name.toList ++ ':' :: value.write) :: writeFields rest

end

/-- The text of a value, as a string. -/
def render (j : Json) : String := String.ofList j.write

end Json

end CalcSpeech
