import CalcSpeech.Language.Pack
import CalcSpeech.Vocabulary

/-!
# Marks in written numerals

Behind this step a numeral has a period as its decimal point and no grouping. The order matters:
groups of three behind commas are taken out before a lone comma is read as a decimal point, which
tells `1,234` from `1,25`.
-/

namespace CalcSpeech.NumeralMark

open Pattern

/-- A plain space for each of the spaces used inside numerals: no-break, narrow no-break, figure
and thin. -/
def plainSpace (c : Char) : Char :=
  if c = '\u00A0' ∨ c = '\u202F' ∨ c = '\u2007' ∨ c = '\u2009' then ' ' else c

/-- A digit (1), a point between digits as the language speaks or writes it, and a digit (2). -/
def spokenPoint? (pack : LanguagePack) : Option Pattern :=
  let spoken := (Vocabulary.pattern? (pack.words .decimalWords)).map fun word =>
    inOrder [loose, word, loose]
  let written := match pack.decimalMark with
    | .comma => some (just ',')
    | .period => none
  match spoken.toList ++ written.toList with
  | [] => none
  | points => some (inOrder [group 1 digit, oneOf points, group 2 digit])

/-- A digit (1), a period with blanks around it, and a digit (2). -/
def spacedPoint : Pattern := inOrder [group 1 digit, loose, just '.', loose, group 2 digit]

/-- Digits in groups of three behind commas. -/
def commaGroups : Pattern :=
  inOrder [boundary, upToThree digit, atLeastOne (inOrder [just ',', times 3 digit]), boundary]

/-- Digits in groups of three behind periods, then a comma and a digit. -/
def periodGroups : Pattern :=
  inOrder [boundary, upToThree digit, atLeastOne (inOrder [just '.', times 3 digit]), just ',',
    digit]

/-- Digits (1), a comma, and one or two last digits (2). -/
def decimalComma : Pattern :=
  inOrder [group 1 (atLeastOne digit), just ',', group 2 (oneOf [times 2 digit, digit]), boundary]

/-- The two kept parts of a match with a period between. -/
def pointed (m : Match) : List Char := m.group 1 ++ '.' :: m.group 2

/-- A match without one of its marks. -/
def without (mark : Char) (m : Match) : List Char := m.text.filter (· != mark)

/-- Reads the decimal point of the language. -/
def rewriteSpoken (mark : DecimalMark) (point : Option Pattern) (text : List Char) : List Char :=
  match point with
  | none => text
  | some point =>
    let ungrouped := match mark with
      | .comma => periodGroups.rewrite (without '.') text
      | .period => text
    point.rewrite pointed ungrouped

/-- Writes the numerals of a text with a period as decimal point and without grouping. -/
def rewrite (mark : DecimalMark) (point : Option Pattern) (text : List Char) : List Char :=
  let text := rewriteSpoken mark point (text.map plainSpace)
  let text := spacedPoint.rewrite pointed text
  let text := commaGroups.rewrite (without ',') text
  decimalComma.rewrite pointed text

end CalcSpeech.NumeralMark
