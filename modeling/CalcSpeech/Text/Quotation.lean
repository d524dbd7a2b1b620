import CalcSpeech.Unicode.Plain

/-!
# Quoted paths

A path is shown between double quotes, with everything in it that could be misread escaped.
-/

namespace CalcSpeech.Text

/-- A character between quotes. -/
def showChar (c : Char) : List Char :=
  if c = '\x00' then ['\\', '0']
  else if c = '\t' then ['\\', 't']
  else if c = '\n' then ['\\', 'n']
  else if c = '\r' then ['\\', 'r']
  else if c = '"' ∨ c = '\'' ∨ c = '\\' then ['\\', c]
  else if Unicode.isPlain c then [c]
  else "\\u\x7b".toList ++ Nat.toDigits 16 c.toNat ++ ['\x7d']

/-- A text between quotes. -/
def showQuoted (s : String) : String := String.ofList ('"' :: s.toList.flatMap showChar ++ ['"'])

end CalcSpeech.Text
