/-!
# Blanks

The White_Space characters. They separate words, and a run of them is one gap.
-/

namespace CalcSpeech.Unicode

/-- The White_Space characters beyond ASCII that stand alone or in short rows. -/
def isWideBlank (n : Nat) : Bool :=
  n == 0x85 || n == 0xA0 || n == 0x1680 || (0x2000 ≤ n && n ≤ 0x200A) || n == 0x2028 ||
    n == 0x2029 || n == 0x202F || n == 0x205F || n == 0x3000

/-- Whether a character is white space. -/
def isBlank (c : Char) : Bool :=
  c == ' ' || (9 ≤ c.toNat && c.toNat ≤ 13) || isWideBlank c.toNat

end CalcSpeech.Unicode
