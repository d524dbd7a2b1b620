import CalcSpeech.Unicode.Alphabetic
import CalcSpeech.Unicode.Composition
import CalcSpeech.Unicode.Lowercase

/-!
# Transcripts

Before its words are read a transcript is put in one form: composed, in lowercase, with one
hyphen for every dash and minus sign, and with a space for a hyphen that joins two words. A hyphen
beside a digit stays, since it may be a minus sign. A transcript beyond the length limit is not
read at all.
-/

namespace CalcSpeech.Transcript

open Unicode

/-- The longest transcript that is read, in characters. -/
def lengthLimit : Nat := 1000

/-- Whether a transcript is too long to be read. -/
def isTooLong (transcript : List Char) : Bool := lengthLimit < transcript.length

/-- What a transcript that is too long comes to: its beginning, in lowercase. -/
def truncated (transcript : List Char) : List Char := lowercase (transcript.take lengthLimit)

/-- A hyphen for an en dash, an em dash or a minus sign. -/
def plainDash (c : Char) : Char :=
  if c = '\u2013' ∨ c = '\u2014' ∨ c = '\u2212' then '-' else c

/-- Puts a space for each hyphen between two alphabetic characters, behind the character
`before`. -/
def splitAtHyphens (before : Option Char) : List Char → List Char
  | [] => []
  | c :: rest =>
    let joins := c = '-' ∧ before.any isAlphabetic ∧ rest.head?.any isAlphabetic
    (if joins then ' ' else c) :: splitAtHyphens (some c) rest

/-- The form in which a transcript is read. -/
def prepare (transcript : List Char) : List Char :=
  splitAtHyphens none ((lowercase (composed transcript)).map plainDash)

end CalcSpeech.Transcript
