import ChangeReview.Text.Blank

/-!
# Characters of source text

The classes of characters that tokens are made of. The character zero belongs to no token.
-/

namespace ChangeReview.Syntax

/-- Blank between tokens. -/
def isSpacing (c : Char) : Bool :=
  Text.isBlank c || c.toNat == 0xFEFF || c.toNat == 0x2060 || c.toNat == 0x200B

/-- Blank for the insertion of semicolons. -/
def isPlainSpace (c : Char) : Bool := c == ' ' || (9 ≤ c.toNat && c.toNat ≤ 13)

/-- A line ends here, for comments. -/
def endsLine (c : Char) : Bool := c == '\n' || c == '\r' || c.toNat == 0x2028 || c.toNat == 0x2029

/-- A line ends here, for the insertion of semicolons. -/
def isLineFeed (c : Char) : Bool := c == '\n' || c.toNat == 0x2028 || c.toNat == 0x2029

/-- The ASCII characters that cannot stand in a name. -/
def punctuation : List Char := ":;\x60\"'@#.,|^&<=>+-*/\\%?!~()[]\x7b\x7d".toList

/-- A character that a name may contain. -/
def isNameChar (c : Char) : Bool := 0x20 ≤ c.toNat && !isSpacing c && !punctuation.contains c

/-- A character that a name may start with. -/
def isNameStart (c : Char) : Bool := isNameChar c && !c.isDigit

def isHexDigit (c : Char) : Bool :=
  c.isDigit || ('a' ≤ c && c ≤ 'f') || ('A' ≤ c && c ≤ 'F')

def isOctalDigit (c : Char) : Bool := '0' ≤ c && c ≤ '7'

def isBinaryDigit (c : Char) : Bool := c == '0' || c == '1'

end ChangeReview.Syntax
