import CalcSpeech.Text.Words

/-!
# Folding number words

The words of a spoken number are added up by place value: `two hundred and five thousand` is
2 · 100, then 5 more, then all of it 1000 times. A word that does not fit behind those before it
begins a new number, so that `seven nine` stays two numbers. Values stop at the largest that
64 bits hold.
-/

namespace CalcSpeech.NumberWord

/-- A number word by its value, with the connector spoken before it. -/
structure Token where
  value : Nat
  connector : Option (List Char) := none
  deriving DecidableEq, Repr

/-- A finished number, with the connector that stays in front of it. -/
structure Numeral where
  connector : Option (List Char)
  value : Nat
  deriving DecidableEq, Repr

/-- The largest value that a number can take. -/
def valueLimit : Nat := Nat.pow 2 64 - 1

/-- A value, or the largest one if it is beyond. -/
def capped (n : Nat) : Nat := min n valueLimit

/-- The power of ten of the lowest digit of `n` that is not zero; `fuel` bounds the number of
zeros behind it. -/
def placeValueWithin : (fuel : Nat) → Nat → Nat
  | 0, _ => 1
  | fuel + 1, n => if n % 10 = 0 then 10 * placeValueWithin fuel (n / 10) else 1

/-- The power of ten of the lowest digit that is not zero, for a number above zero. -/
def placeValue (n : Nat) : Nat := placeValueWithin n n

/-- Whether a value below 1000 fits behind what was read since the last magnitude. -/
def extends? (current value : Nat) : Bool := current == 0 || value < placeValue current

/-- Numbers in the course of being read: those finished, last one first; of the one under way the
part up to its last magnitude and the part since, and whether there is one under way; and the
connector that will stand before it. -/
structure Fold where
  finished : List Numeral := []
  total : Nat := 0
  current : Nat := 0
  pending : Bool := false
  connector : Option (List Char) := none
  deriving DecidableEq, Repr

namespace Fold

/-- Writes a number down. -/
def emit (f : Fold) (value : Nat) : Fold :=
  { f with finished := ⟨f.connector, value⟩ :: f.finished, connector := none }

/-- Ends the number under way, if there is one. -/
def flush (f : Fold) : Fold :=
  let f := if f.pending then f.emit (capped (f.total + f.current)) else f
  { f with total := 0, current := 0, pending := false }

/-- Ends the number under way so that a token can begin a new one. -/
def breakBefore (f : Fold) (token : Token) : Fold := { f.flush with connector := token.connector }

/-- Reads a zero, a number of its own. -/
def readZero (f : Fold) (token : Token) : Fold := (f.breakBefore token).emit 0

/-- Reads a magnitude such as a thousand or a million, which multiplies what came since the last
one. A second magnitude begins a new number, which takes along what came between. -/
def readMagnitude (f : Fold) (token : Token) : Fold :=
  let count := f.current
  let f := if 0 < f.total then { f with current := 0 }.breakBefore token else f
  { f with total := capped (max count 1 * token.value), current := 0, pending := true }

/-- Reads a hundred, which multiplies the units before it. -/
def readHundred (f : Fold) (token : Token) : Fold :=
  let f := if 100 ≤ f.current then f.breakBefore token else f
  { f with current := capped (max f.current 1 * 100), pending := true }

/-- Reads a value that is added to what came since the last magnitude. -/
def readPart (f : Fold) (token : Token) : Fold :=
  let f := if extends? f.current token.value then f else f.breakBefore token
  { f with current := f.current + token.value, pending := true }

/-- Reads one token. -/
def read (f : Fold) (token : Token) : Fold :=
  if token.value = 0 then f.readZero token
  else if 1000 ≤ token.value then f.readMagnitude token
  else if token.value = 100 then f.readHundred token
  else f.readPart token

end Fold

/-- The numbers that a row of tokens stands for, in order. -/
def numerals (tokens : List Token) : List Numeral :=
  (tokens.foldl Fold.read {}).flush.finished.reverse

/-- The text behind a first number: each further one with its connector in front. -/
def furtherText : List Numeral → List Char
  | [] => []
  | n :: rest =>
    let spoken := match n.connector with
      | some connector => connector ++ [' ']
      | none => []
    ' ' :: spoken ++ Nat.toDigits 10 n.value ++ furtherText rest

/-- The text of a row of numbers. -/
def numeralsText : List Numeral → List Char
  | [] => []
  | n :: rest => Nat.toDigits 10 n.value ++ furtherText rest

/-- The text that a row of tokens is written as. -/
def foldText (tokens : List Token) : List Char := numeralsText (numerals tokens)

end CalcSpeech.NumberWord
