import CalcSpeech.Unicode.CombiningClass
import CalcSpeech.Unicode.Decomposition

/-!
# Canonical composition

A text in composed form writes each base with its marks in the one canonical way: everything is
taken apart, marks are put in the order of their classes, and what a single character can stand
for is put together again. Hangul syllables follow a rule of their own in both directions.
-/

namespace CalcSpeech.Unicode

/-- The two or three jamo of a Hangul syllable. -/
def decomposeHangul (point : Nat) : Option (List Nat) :=
  if 0xAC00 ≤ point ∧ point ≤ 0xD7A3 then
    let index := point - 0xAC00
    let tail := index % 28
    some ([0x1100 + index / 588, 0x1161 + index % 588 / 28] ++
      if tail = 0 then [] else [0x11A7 + tail])
  else none

/-- The Hangul syllable of a lead and a vowel, or of an open syllable and a tail. -/
def composeHangul (a b : Nat) : Option Nat :=
  if 0x1100 ≤ a ∧ a < 0x1113 ∧ 0x1161 ≤ b ∧ b < 0x1176 then
    some (0xAC00 + ((a - 0x1100) * 21 + (b - 0x1161)) * 28)
  else if 0xAC00 ≤ a ∧ a ≤ 0xD7A3 ∧ (a - 0xAC00) % 28 = 0 ∧ 0x11A8 ≤ b ∧ b < 0x11C3 then
    some (a + (b - 0x11A7))
  else none

/-- Takes a code point apart as far as it goes; `depth` bounds the nesting of the tables, which is
at most four. -/
def decomposePoint : (depth : Nat) → Nat → List Nat
  | 0, point => [point]
  | depth + 1, point =>
    match canonicalPairs.find? (·.1 == point) with
    | some (_, a, b) => decomposePoint depth a ++ decomposePoint depth b
    | none =>
      match canonicalSingles.find? (·.1 == point) with
      | some (_, a) => decomposePoint depth a
      | none => [point]

/-- The full canonical decomposition of a code point. -/
def decomposition (point : Nat) : List Nat :=
  if point < 0xC0 then [point]
  else (decomposeHangul point).getD (decomposePoint 5 point)

/-- Puts a code point in front of an ordered text, behind the marks of smaller class that it may
pass. -/
def insertByClass (point : Nat) : List Nat → List Nat
  | [] => [point]
  | next :: rest =>
    if 0 < combiningClass next ∧ combiningClass next < combiningClass point then
      next :: insertByClass point rest
    else point :: next :: rest

/-- Orders the marks after each base by class, those of one class in their given order. -/
def orderMarks (points : List Nat) : List Nat := points.foldr insertByClass []

/-- The code point that stands for `a` followed by `b`, if composition uses one. -/
def compose? (a b : Nat) : Option Nat :=
  match composeHangul a b with
  | some syllable => some syllable
  | none =>
    (canonicalPairs.find? fun (c, first, second) =>
      first == a && second == b && !compositionExclusions.contains c).map (·.1)

/-- Composes what follows a base. `kept` holds the marks after the base that stayed, last one
first, and `highest` the class of the last of them; a code point reaches the base when no mark of
its class or above stands between. -/
def composeAfter (base : Nat) (kept : List Nat) (highest : Nat) : List Nat → List Nat
  | [] => base :: kept.reverse
  | point :: rest =>
    let cls := combiningClass point
    match if kept.isEmpty || highest < cls then compose? base point else none with
    | some joined => composeAfter joined kept highest rest
    | none =>
      if cls = 0 then base :: (kept.reverse ++ composeAfter point [] 0 rest)
      else composeAfter base (point :: kept) cls rest

/-- Composes an ordered text; marks before the first base stay as they are. -/
def composePoints : List Nat → List Nat
  | [] => []
  | point :: rest =>
    if combiningClass point = 0 then composeAfter point [] 0 rest
    else point :: composePoints rest

/-- Whether every character is below the first combining mark, so that nothing can change. -/
def needsNoComposition (text : List Char) : Bool := text.all (·.toNat < 0x300)

/-- A text in canonical composed form. -/
def composed (text : List Char) : List Char :=
  if needsNoComposition text then text
  else (composePoints (orderMarks (text.flatMap (decomposition ·.toNat)))).map Char.ofNat

end CalcSpeech.Unicode
