import ChangeReview.Toml.Scalar

/-!
# Strings, keys and blanks in TOML
-/

namespace ChangeReview.Toml

/-! ## Blanks -/

def isSpace (c : Char) : Bool := c == ' ' || c == '\t'

def skipSpace (s : List Char) : List Char := s.dropWhile isSpace

/-- Characters that may stand in comments and strings. -/
def isPlain (c : Char) : Bool := c == '\t' || (0x20 ≤ c.toNat && c.toNat != 0x7F)

/-- The rest after a line ending. -/
def afterNewline? : List Char → Option (List Char)
  | '\n' :: rest => some rest
  | '\r' :: '\n' :: rest => some rest
  | _ => none

/-- The rest after a comment, if one begins here. -/
def skipComment (s : List Char) : List Char :=
  match s with
  | '#' :: rest => rest.dropWhile isPlain
  | s => s

/-- The rest after blanks, comments and line endings. -/
def skipLines : (fuel : Nat) → List Char → List Char
  | 0, s => s
  | fuel + 1, s =>
    let t := skipComment (skipSpace s)
    match afterNewline? t with
    | some rest => skipLines fuel rest
    | none => t

/-- The rest after blanks over several lines. -/
def skipBlank (s : List Char) : List Char := skipLines (s.length + 1) s

/-- The rest after the end of a line: blanks, a comment, and the line ending or the end of the text. -/
def afterLine? (s : List Char) : Option (List Char) :=
  let t := skipComment (skipSpace s)
  if t.isEmpty then some [] else afterNewline? t

/-! ## Strings -/

/-- The character with a code of `count` hexadecimal digits, and the rest. -/
def codeEscape? (count : Nat) (s : List Char) : Option (Char × List Char) :=
  let digits := s.take count
  let n := digits.foldl (fun n c => n * 16 + digitValue c) 0
  if digits.length = count ∧ digits.all isHexDigit ∧ n.isValidChar then
    some (Char.ofNat n, s.drop count)
  else none

/-- One escape, after its backslash. -/
def escape? : List Char → Option (Char × List Char)
  | 'b' :: rest => some ('\x08', rest)
  | 't' :: rest => some ('\t', rest)
  | 'n' :: rest => some ('\n', rest)
  | 'f' :: rest => some ('\x0c', rest)
  | 'r' :: rest => some ('\r', rest)
  | 'e' :: rest => some ('\x1b', rest)
  | '"' :: rest => some ('"', rest)
  | '\\' :: rest => some ('\\', rest)
  | 'x' :: rest => codeEscape? 2 rest
  | 'u' :: rest => codeEscape? 4 rest
  | 'U' :: rest => codeEscape? 8 rest
  | _ => none

/-- Read a basic string, after its opening quote. `read` holds the characters so far, last first. -/
def basicString? : (fuel : Nat) → (read : List Char) → List Char → Option (String × List Char)
  | 0, _, _ => none
  | _ + 1, _, [] => none
  | _ + 1, read, '"' :: rest => some (String.ofList read.reverse, rest)
  | fuel + 1, read, '\\' :: rest =>
    match escape? rest with
    | some (c, rest) => basicString? fuel (c :: read) rest
    | none => none
  | fuel + 1, read, c :: rest => if isPlain c then basicString? fuel (c :: read) rest else none

/-- Read a literal string, after its opening quote. -/
def literalString? (s : List Char) : Option (String × List Char) :=
  let inside := fun c => isPlain c && c != '\''
  match s.dropWhile inside with
  | '\'' :: rest => some (String.ofList (s.takeWhile inside), rest)
  | _ => none

/-- Split the quotes that a text starts with when they end a string of several lines: up to two of
them belong to the string. -/
def closingQuotes? (quote : Char) (s : List Char) : Option (List Char × List Char) :=
  let count := (s.takeWhile (· == quote)).length
  if count < 3 then none
  else
    let inside := min (count - 3) 2
    some (List.replicate inside quote, s.drop (inside + 3))

/-- The rest after the line ending that a backslash hides, with all blanks before the next text. -/
def afterHiddenEnding? (s : List Char) : Option (List Char) :=
  match afterNewline? (skipSpace s) with
  | some rest => some (rest.dropWhile fun c => isSpace c || c == '\n' || c == '\r')
  | none => none

/-- Read a basic string of several lines, after its opening quotes. -/
def basicLines? : (fuel : Nat) → (read : List Char) → List Char → Option (String × List Char)
  | 0, _, _ => none
  | _ + 1, _, [] => none
  | fuel + 1, read, '\\' :: rest =>
    match escape? rest with
    | some (c, rest) => basicLines? fuel (c :: read) rest
    | none =>
      match afterHiddenEnding? rest with
      | some rest => basicLines? fuel read rest
      | none => none
  | fuel + 1, read, c :: rest =>
    match closingQuotes? '"' (c :: rest) with
    | some (quotes, rest) => some (String.ofList (read.reverse ++ quotes), rest)
    | none =>
      match afterNewline? (c :: rest) with
      | some rest => basicLines? fuel ('\n' :: read) rest
      | none => if isPlain c then basicLines? fuel (c :: read) rest else none

/-- Read a literal string of several lines, after its opening quotes. -/
def literalLines? : (fuel : Nat) → (read : List Char) → List Char → Option (String × List Char)
  | 0, _, _ => none
  | _ + 1, _, [] => none
  | fuel + 1, read, c :: rest =>
    match closingQuotes? '\'' (c :: rest) with
    | some (quotes, rest) => some (String.ofList (read.reverse ++ quotes), rest)
    | none =>
      match afterNewline? (c :: rest) with
      | some rest => literalLines? fuel ('\n' :: read) rest
      | none => if isPlain c then literalLines? fuel (c :: read) rest else none

/-- The text after a line ending that directly follows the opening quotes. -/
def skipFirstNewline (s : List Char) : List Char := (afterNewline? s).getD s

/-- Read a string on one line; the text begins with its quote. -/
def lineString? (s : List Char) : Option (String × List Char) :=
  match s with
  | '"' :: rest => basicString? (rest.length + 1) [] rest
  | '\'' :: rest => literalString? rest
  | _ => none

/-- Read a string; the text begins with its quote. -/
def string? (s : List Char) : Option (String × List Char) :=
  match s with
  | '"' :: '"' :: '"' :: rest => basicLines? (rest.length + 1) [] (skipFirstNewline rest)
  | '\'' :: '\'' :: '\'' :: rest => literalLines? (rest.length + 1) [] (skipFirstNewline rest)
  | s => lineString? s

/-! ## Keys -/

def isBareChar (c : Char) : Bool := c.isAlphanum || c == '_' || c == '-'

/-- One part of a key. -/
def keyPart? (s : List Char) : Option (String × List Char) :=
  match s.head? with
  | some '"' | some '\'' => lineString? s
  | _ =>
    let bare := s.takeWhile isBareChar
    if bare.isEmpty then none else some (String.ofList bare, s.dropWhile isBareChar)

/-- A key: parts with dots between them. -/
def key? : (fuel : Nat) → List Char → Option (List String × List Char)
  | 0, _ => none
  | fuel + 1, s => do
    let (part, rest) ← keyPart? (skipSpace s)
    match skipSpace rest with
    | '.' :: rest =>
      let (parts, rest) ← key? fuel rest
      some (part :: parts, rest)
    | rest => some ([part], rest)

/-- A key; no key has more parts than the text has characters. -/
def dottedKey? (s : List Char) : Option (List String × List Char) := key? (s.length + 1) s

end ChangeReview.Toml
