import CalcSpeech.Unicode.Casing

/-!
# Lowercase text

Each character has a small form of its own, except that a capital sigma is written in its final
form at the end of a word. A word ends there when some cased character stands before the sigma and
none after it, the case-ignorable characters between being passed over.
-/

namespace CalcSpeech.Unicode

/-- The small form of a character taken by itself. -/
def lowercaseAlone (c : Char) : List Char :=
  if c.toNat < 0x80 then [c.toLower]
  else if c == 'İ' then ['i', '\u0307']
  else match caseRuns.find? (·.covers c.toNat) with
    | some run => [Char.ofNat (c.toNat + run.shift).toNat]
    | none => [c]

/-- Whether the nearest character that is not case-ignorable is cased. -/
def casedAhead (text : List Char) : Bool :=
  (text.dropWhile isCaseIgnorable).head?.any isCased

/-- The small forms of `text`, where `before` holds the characters already read, last one first. -/
def lowercaseAfter (before : List Char) : List Char → List Char
  | [] => []
  | c :: rest =>
    let small :=
      if c == 'Σ' then (if casedAhead before && !casedAhead rest then ['ς'] else ['σ'])
      else lowercaseAlone c
    small ++ lowercaseAfter (c :: before) rest

/-- A text in lowercase. -/
def lowercase (text : List Char) : List Char := lowercaseAfter [] text

/-- Lowercasing on strings. -/
def lowercaseString (s : String) : String := String.ofList (lowercase s.toList)

end CalcSpeech.Unicode
