import CalcSpeech.Unicode.Blank

/-!
# Words of a text

A text is cut at its blanks into words. Joining the words by single spaces collapses every gap,
and dropping the blanks at both ends trims the text.
-/

namespace CalcSpeech.Text

open Unicode

/-- The words of a text whose first characters `current` are already read, last one first. -/
def wordsAfter (current : List Char) : List Char → List (List Char)
  | [] => if current.isEmpty then [] else [current.reverse]
  | c :: rest =>
    if isBlank c then
      if current.isEmpty then wordsAfter [] rest else current.reverse :: wordsAfter [] rest
    else wordsAfter (c :: current) rest

/-- The longest stretches without a blank, in order. -/
def words (text : List Char) : List (List Char) := wordsAfter [] text

/-- Joins parts with `separator` between neighbours. -/
def join (separator : List Char) : List (List Char) → List Char
  | [] => []
  | [part] => part
  | part :: rest => part ++ separator ++ join separator rest

/-- The words of a text with one space between neighbours and none at the ends. -/
def collapse (text : List Char) : List Char := join [' '] (words text)

/-- A text without the blanks at its ends. -/
def trim (text : List Char) : List Char :=
  ((text.dropWhile isBlank).reverse.dropWhile isBlank).reverse

/-- Whether a text has no character other than blanks. -/
def isAllBlank (text : List Char) : Bool := text.all isBlank

/-- Trimming on strings. -/
def trimString (s : String) : String := String.ofList (trim s.toList)

end CalcSpeech.Text
