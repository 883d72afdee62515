import ChangeReview.Json.Value

/-!
# Writing JSON

The compact text of a value. In strings, quotes, backslashes and control characters are escaped,
and so are the three line separators beyond ASCII; everything else stands as it is.
-/

namespace ChangeReview.Json

/-- The hexadecimal digit of a number below sixteen. -/
def hexDigit (n : Nat) : Char := Nat.digitChar n

/-- `\u` and four hexadecimal digits. -/
def unicodeEscape (n : Nat) : List Char :=
  ['\\', 'u', hexDigit (n / 4096 % 16), hexDigit (n / 256 % 16), hexDigit (n / 16 % 16),
    hexDigit (n % 16)]

/-- One character of a string. -/
def escapeChar (c : Char) : List Char :=
  if c = '"' then ['\\', '"']
  else if c = '\\' then ['\\', '\\']
  else if c.toNat < 0x20 ∨ c.toNat = 0x7F ∨ c.toNat = 0x85 ∨ c.toNat = 0x2028 ∨ c.toNat = 0x2029 then
    unicodeEscape c.toNat
  else [c]

/-- A string with its quotes. -/
def quoted (s : String) : String :=
  "\"" ++ String.ofList (s.toList.flatMap escapeChar) ++ "\""

mutual

/-- The text of a value. -/
def Value.text : Value → String
  | .null => "null"
  | .bool b => if b then "true" else "false"
  | .number n => n.text
  | .string s => quoted s
  | .array items => "[" ++ itemsText items ++ "]"
  | .object members => "\x7b" ++ membersText members ++ "\x7d"

/-- The items of an array, between its brackets. -/
def itemsText : List Value → String
  | [] => ""
  | [v] => v.text
  | v :: w :: rest => v.text ++ "," ++ itemsText (w :: rest)

/-- The members of an object, between its braces. -/
def membersText : List (String × Value) → String
  | [] => ""
  | [(k, v)] => quoted k ++ ":" ++ v.text
  | (k, v) :: m :: rest => quoted k ++ ":" ++ v.text ++ "," ++ membersText (m :: rest)

end

end ChangeReview.Json
