/-!
# Media types

The type of a message body: a type, a subtype with an optional suffix behind a plus sign, and
parameters, of which a value may be quoted.
-/

namespace CalcSpeech.Service

/-- The type of a body, without its parameters, in small letters. -/
structure MediaType where
  type : String
  subtype : String
  suffix : Option String
  deriving DecidableEq, Repr

namespace MediaType

/-- The characters of a name in a media type. -/
def isTokenCharacter (c : Char) : Bool :=
  c.isAlphanum || "!#$%&'*+-.^_|~".toList.contains c || c == Char.ofNat 0x60

/-- The characters between quotes. -/
def isQuotable (c : Char) : Bool := 31 < c.toNat && c.toNat != 127 && c != '"'

/-- Whether a text is a row of parameters, as it follows a semicolon; `fuel` bounds the number of
characters. -/
def areParameters : (fuel : Nat) → List Char → Bool
  | 0, _ => false
  | _, [] => true
  | fuel + 1, ' ' :: rest => areParameters fuel rest
  | fuel + 1, text =>
    let name := text.takeWhile isTokenCharacter
    match name, text.dropWhile isTokenCharacter with
    | _ :: _, '=' :: '"' :: rest =>
      match rest.takeWhile isQuotable, rest.dropWhile isQuotable with
      | _ :: _, '"' :: rest =>
        match rest.dropWhile (· == ' ') with
        | [] => true
        | ';' :: rest => areParameters fuel rest
        | _ => false
      | _, _ => false
    | _ :: _, '=' :: rest =>
      match rest.takeWhile isTokenCharacter, rest.dropWhile isTokenCharacter with
      | _, [] => true
      | _ :: _, ';' :: rest => areParameters fuel rest
      | _, _ => false
    | _, _ => false

/-- The subtype and the suffix of a name behind the slash: the suffix follows the last plus sign
that does not begin the name. -/
def splitSuffix (name : List Char) : List Char × Option (List Char) :=
  let suffix := (name.reverse.takeWhile (· != '+')).reverse
  let rest := (name.reverse.dropWhile (· != '+')).drop 1
  if rest.isEmpty then (name, none) else (rest.reverse, some suffix)

/-- Reads a media type. -/
def ofText? (text : String) : Option MediaType :=
  let type := text.toList.takeWhile isTokenCharacter
  match type, text.toList.dropWhile isTokenCharacter with
  | _ :: _, '/' :: rest =>
    let name := rest.takeWhile isTokenCharacter
    let small (s : List Char) := String.ofList (s.map Char.toLower)
    let (subtype, suffix) := splitSuffix name
    let media : MediaType := ⟨small type, small subtype, suffix.map small⟩
    match name, rest.dropWhile isTokenCharacter with
    | _, [] => some media
    | _ :: _, ';' :: parameters =>
      if areParameters (parameters.length + 1) parameters then some media else none
    | _, _ => none
  | _, _ => none

/-- Whether a body of this type is JSON. -/
def isJson (t : MediaType) : Bool :=
  t.type == "application" && (t.subtype == "json" || t.suffix == some "json")

end MediaType

end CalcSpeech.Service
