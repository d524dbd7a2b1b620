import CalcSpeech.Json.Quoted

/-!
# Reading JSON

A text is read as far as it is JSON. What comes of it is a draft: a value whose last open parts
may be broken off where the text stops being JSON. Whoever takes a draft apart goes through it in
the order of the text, so that of two faults in a text the first one counts, whether it lies in
the text or in the value.
-/

namespace CalcSpeech.Json

/-- A value as far as a text spells one. -/
inductive Draft where
  /-- nothing that a value could begin with -/
  | broken
  | null
  | bool (b : Bool)
  /-- a number, and whether it is in the range of a double -/
  | number (inRange : Bool)
  /-- a text, unless half of a character stands alone in it -/
  | text (s : Option String)
  /-- the items of a list, and whether the list was closed -/
  | list (items : List Draft) (closed : Bool)
  /-- the fields of a record, and whether the record was closed -/
  | record (fields : List (Option String × Draft)) (closed : Bool)

/-- The blanks between the parts of a value. -/
def isSpace (c : Char) : Bool := c == ' ' || c == '\n' || c == '\t' || c == '\r'

/-- What follows the blanks at the start of a text. -/
def skipSpace (source : List Char) : List Char := source.dropWhile isSpace

/-- Whether `units * 10 ^ exponent` rounds to a finite double. -/
def isInRange (units : Nat) (exponent : Int) : Bool :=
  let digits := (Nat.toDigits 10 units).length
  if units = 0 ∨ digits + exponent < 300 then true
  else if 320 < digits + exponent then false
  else
    let limit := Nat.pow 2 1024 - Nat.pow 2 970
    if 0 ≤ exponent then units * Nat.pow 10 exponent.toNat < limit
    else units < limit * Nat.pow 10 (-exponent).toNat

/-- Digits, at least one, and what follows them. -/
def readDigits? (source : List Char) : Option (List Char × List Char) :=
  let digits := source.takeWhile Char.isDigit
  if digits.isEmpty then none else some (digits, source.dropWhile Char.isDigit)

/-- The digits before the point: no zero leads other digits. -/
def readWhole? (source : List Char) : Option (List Char × List Char) := do
  let (digits, rest) ← readDigits? source
  if digits.head? = some '0' ∧ digits ≠ ['0'] then none else some (digits, rest)

/-- The digits behind the point, if there is a point. -/
def readFraction? : List Char → Option (List Char × List Char)
  | '.' :: rest => readDigits? rest
  | rest => some ([], rest)

/-- The digits of an exponent behind its letter, with its sign. -/
def readSigned? : List Char → Option (Int × List Char)
  | '-' :: rest =>
    (readDigits? rest).map fun (digits, rest) => (-Nat.ofDigitChars 10 digits 0, rest)
  | '+' :: rest => (readDigits? rest).map fun (digits, rest) => (Nat.ofDigitChars 10 digits 0, rest)
  | rest => (readDigits? rest).map fun (digits, rest) => (Nat.ofDigitChars 10 digits 0, rest)

/-- The exponent, if there is one. -/
def readExponent? : List Char → Option (Int × List Char)
  | 'e' :: rest | 'E' :: rest => readSigned? rest
  | rest => some (0, rest)

/-- Reads a number without its sign: whether it is in range, and what follows it. -/
def readNumber? (source : List Char) : Option (Bool × List Char) := do
  let (whole, rest) ← readWhole? source
  let (fraction, rest) ← readFraction? rest
  let (exponent, rest) ← readExponent? rest
  return (isInRange (Nat.ofDigitChars 10 (whole ++ fraction) 0) (exponent - fraction.length), rest)

/-- A value without parts that begins a text, if one does, and what follows it. -/
def readScalar? (source : List Char) : Option (Draft × List Char) :=
  match source with
  | 'n' :: 'u' :: 'l' :: 'l' :: rest => some (.null, rest)
  | 't' :: 'r' :: 'u' :: 'e' :: rest => some (.bool true, rest)
  | 'f' :: 'a' :: 'l' :: 's' :: 'e' :: rest => some (.bool false, rest)
  | '"' :: rest => (readQuoted? rest).map fun (s, rest) => (.text (s.map String.ofList), rest)
  | '-' :: rest => (readNumber? rest).map fun (inRange, rest) => (.number inRange, rest)
  | rest => (readNumber? rest).map fun (inRange, rest) => (.number inRange, rest)

/-- A part of a text that was read, with what follows it; nothing follows a part that is broken
off. -/
abbrev Reading (α : Type) := α × Option (List Char)

mutual

/-- Reads a value; `fuel` bounds the number of characters. -/
def readValue : (fuel : Nat) → List Char → Reading Draft
  | 0, _ => (.broken, none)
  | fuel + 1, source =>
    match skipSpace source with
    | '[' :: rest =>
      let (items, rest) := readItems fuel true rest
      (.list items rest.isSome, rest)
    | '{' :: rest =>
      let (fields, rest) := readFields fuel true rest
      (.record fields rest.isSome, rest)
    | source =>
      match readScalar? source with
      | some (value, rest) => (value, some rest)
      | none => (.broken, none)

/-- Reads the items of a list up to its end; `first` says that no item was read yet. -/
def readItems : (fuel : Nat) → (first : Bool) → List Char → Reading (List Draft)
  | 0, _, _ => ([], none)
  | fuel + 1, first, source =>
    match first, skipSpace source with
    | _, ']' :: rest => ([], some rest)
    | false, ',' :: rest => readItem fuel rest
    | true, rest => readItem fuel rest
    | _, _ => ([], none)

/-- Reads an item of a list and those behind it. -/
def readItem : (fuel : Nat) → List Char → Reading (List Draft)
  | 0, _ => ([], none)
  | fuel + 1, source =>
    match readValue fuel source with
    | (item, none) => ([item], none)
    | (item, some rest) =>
      let (items, rest) := readItems fuel false rest
      (item :: items, rest)

/-- Reads the fields of a record up to its end; `first` says that no field was read yet. -/
def readFields : (fuel : Nat) → (first : Bool) → List Char →
    Reading (List (Option String × Draft))
  | 0, _, _ => ([], none)
  | fuel + 1, first, source =>
    match first, skipSpace source with
    | _, '}' :: rest => ([], some rest)
    | false, ',' :: rest => readField fuel (skipSpace rest)
    | true, rest => readField fuel rest
    | _, _ => ([], none)

/-- Reads a field of a record and those behind it. -/
def readField : (fuel : Nat) → List Char → Reading (List (Option String × Draft))
  | fuel + 1, '"' :: source =>
    match readQuoted? source with
    | none => ([], none)
    | some (name, rest) =>
      let name := name.map String.ofList
      match skipSpace rest with
      | ':' :: rest =>
        match readValue fuel rest with
        | (value, none) => ([(name, value)], none)
        | (value, some rest) =>
          let (fields, rest) := readFields fuel false rest
          ((name, value) :: fields, rest)
      | _ => ([(name, .broken)], none)
  | _, _ => ([], none)

end

/-- The draft that begins a text, and what follows it. -/
def read (source : String) : Reading Draft := readValue (3 * source.length + 3) source.toList

/-- Whether nothing but blanks follows a draft. -/
def endsThere : Option (List Char) → Bool
  | some rest => (skipSpace rest).isEmpty
  | none => false

end CalcSpeech.Json
