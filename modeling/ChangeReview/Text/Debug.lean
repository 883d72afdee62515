/-!
# Quoted text in messages

The quoted form of a text inside an error message: quotes, backslashes and the characters that
show nothing of their own are escaped.
-/

namespace ChangeReview.Text

/-- Ranges of characters that are not shown: controls, format characters, separators other than
the space, private use, and marks that extend the character before them. -/
def hiddenRanges : List (Nat × Nat) := [
  (0x00, 0x1F), (0x7F, 0xA0), (0xAD, 0xAD), (0x300, 0x36F), (0x483, 0x489), (0x591, 0x5BD),
  (0x5BF, 0x5BF), (0x5C1, 0x5C2), (0x5C4, 0x5C5), (0x5C7, 0x5C7), (0x600, 0x605), (0x610, 0x61A),
  (0x61C, 0x61C), (0x64B, 0x65F), (0x670, 0x670), (0x6D6, 0x6DD), (0x6DF, 0x6E4), (0x6E7, 0x6E8),
  (0x6EA, 0x6ED), (0x70F, 0x70F), (0x711, 0x711), (0x730, 0x74A), (0x7A6, 0x7B0), (0x93A, 0x93A),
  (0x93C, 0x93C), (0x941, 0x948), (0x94D, 0x94D), (0x951, 0x957), (0xE31, 0xE31), (0xE34, 0xE3A),
  (0xE47, 0xE4E), (0x1680, 0x1680), (0x180B, 0x180F), (0x1AB0, 0x1ACE), (0x1DC0, 0x1DFF),
  (0x2000, 0x200F), (0x2028, 0x202F), (0x205F, 0x206F), (0x20D0, 0x20F0), (0x3000, 0x3000),
  (0x302A, 0x302F), (0x3099, 0x309A), (0xE000, 0xF8FF), (0xFE00, 0xFE0F), (0xFE20, 0xFE2F),
  (0xFEFF, 0xFEFF), (0xFF9E, 0xFF9F), (0xFFF0, 0xFFFB), (0xFFFE, 0xFFFF),
  (0xE0000, 0x10FFFF)]

/-- Whether a character is escaped because it shows nothing of its own. -/
def isHidden (c : Char) : Bool :=
  hiddenRanges.any fun (lo, hi) => decide (lo ≤ c.toNat ∧ c.toNat ≤ hi)

/-- One character of a quoted text. -/
def debugChar (c : Char) : List Char :=
  if c = '"' then ['\\', '"']
  else if c = '\\' then ['\\', '\\']
  else if c = '\n' then ['\\', 'n']
  else if c = '\r' then ['\\', 'r']
  else if c = '\t' then ['\\', 't']
  else if c.toNat = 0 then ['\\', '0']
  else if isHidden c then
    ['\\', 'u', '\x7b'] ++ Nat.toDigits 16 c.toNat ++ ['\x7d']
  else [c]

/-- A text in quotes. -/
def debugQuoted (s : String) : String :=
  "\"" ++ String.ofList (s.toList.flatMap debugChar) ++ "\""

end ChangeReview.Text
