/-!
# Quoted text

Text between quotes, in which a quote, a backslash and the control characters are escaped.
Writing escapes no more than it has to; reading takes every escape, and combines two escaped
halves of a character beyond the first plane.
-/

namespace CalcSpeech.Json

/-- A hexadecimal digit in small letters. -/
def hexDigit (n : Nat) : Char := if n < 10 then Char.ofNat (48 + n) else Char.ofNat (87 + n)

/-- The value of a hexadecimal digit in small or capital letters. -/
def hexValue? (c : Char) : Option Nat :=
  if '0' ≤ c ∧ c ≤ '9' then some (c.toNat - 48)
  else if 'a' ≤ c ∧ c ≤ 'f' then some (c.toNat - 87)
  else if 'A' ≤ c ∧ c ≤ 'F' then some (c.toNat - 55)
  else none

/-- How a character is written between quotes. -/
def escape (c : Char) : List Char :=
  if c = '"' then ['\\', '"']
  else if c = '\\' then ['\\', '\\']
  else if c = '\x08' then ['\\', 'b']
  else if c = '\t' then ['\\', 't']
  else if c = '\n' then ['\\', 'n']
  else if c = '\x0c' then ['\\', 'f']
  else if c = '\r' then ['\\', 'r']
  else if c.toNat < 32 then ['\\', 'u', '0', '0', hexDigit (c.toNat / 16), hexDigit (c.toNat % 16)]
  else [c]

/-- A text between quotes. -/
def quote (text : List Char) : List Char := '"' :: text.flatMap escape ++ ['"']

/-- One unit of quoted text: a character, or half of one. -/
inductive Unit16 where
  | whole (c : Char)
  | half (n : Nat)

/-- The unit of a four-digit escape. -/
def Unit16.ofNat (n : Nat) : Unit16 :=
  if 0xD800 ≤ n ∧ n < 0xE000 then half n else whole (Char.ofNat n)

/-- Reads a four-digit escape behind its letter. -/
def readHex? : List Char → Option (Nat × List Char)
  | a :: b :: c :: d :: rest => do
    let a ← hexValue? a
    let b ← hexValue? b
    let c ← hexValue? c
    let d ← hexValue? d
    return (((a * 16 + b) * 16 + c) * 16 + d, rest)
  | _ => none

/-- The character of an escape of one letter. -/
def escaped? (c : Char) : Option Char :=
  if c = '"' ∨ c = '\\' ∨ c = '/' then some c
  else if c = 'b' then some '\x08'
  else if c = 'f' then some '\x0c'
  else if c = 'n' then some '\n'
  else if c = 'r' then some '\r'
  else if c = 't' then some '\t'
  else none

/-- Reads the units of a quoted text behind its opening quote, up to and with the closing one.
`fuel` bounds the number of characters. -/
def readUnits? : (fuel : Nat) → List Char → Option (List Unit16 × List Char)
  | 0, _ => none
  | _, [] => none
  | _ + 1, '"' :: rest => some ([], rest)
  | fuel + 1, '\\' :: 'u' :: rest => do
    let (n, rest) ← readHex? rest
    let (units, rest) ← readUnits? fuel rest
    return (.ofNat n :: units, rest)
  | fuel + 1, '\\' :: c :: rest => do
    let c ← escaped? c
    let (units, rest) ← readUnits? fuel rest
    return (.whole c :: units, rest)
  | fuel + 1, c :: rest =>
    if c = '\\' ∨ c.toNat < 32 then none
    else do
      let (units, rest) ← readUnits? fuel rest
      return (.whole c :: units, rest)

/-- The text of a row of units, unless a half stands alone. -/
def joinUnits? : List Unit16 → Option (List Char)
  | [] => some []
  | .whole c :: rest => (joinUnits? rest).map (c :: ·)
  | .half a :: .half b :: rest =>
    if a < 0xDC00 ∧ 0xDC00 ≤ b then
      (joinUnits? rest).map (Char.ofNat (0x10000 + (a - 0xD800) * 0x400 + (b - 0xDC00)) :: ·)
    else none
  | .half _ :: _ => none

/-- Reads a quoted text behind its opening quote: its characters, none where a half of a character
stands alone, and what follows the closing quote. -/
def readQuoted? (text : List Char) : Option (Option (List Char) × List Char) :=
  (readUnits? (text.length + 1) text).map fun (units, rest) => (joinUnits? units, rest)

end CalcSpeech.Json
