import ChangeReview.Syntax.Character
import ChangeReview.Text.Search

/-!
# Lexemes

The tokens that are classes of texts: names, numbers, strings, regular expressions and the texts of
markup. Each is a function that gives the length of the longest such token at the start of a text,
in characters, or nothing. Which lexeme is looked for is decided by what may stand at a place.
-/

namespace ChangeReview.Syntax.Lexeme

/-- Number of characters before the first that fails a test. -/
def run (test : Char → Bool) (s : List Char) : Nat := (s.takeWhile test).length

/-- The longer of two lengths. -/
def longer (a b : Option Nat) : Option Nat :=
  match a, b with
  | some a, some b => some (max a b)
  | some a, none => some a
  | none, b => b

/-! ## Names -/

/-- The length of a character code, after its backslash. -/
def unicodeEscape? (s : List Char) : Option Nat :=
  match s with
  | 'u' :: '\x7b' :: rest =>
    let n := run isHexDigit rest
    if 0 < n ∧ (rest.drop n).head? = some '\x7d' then some (n + 3) else none
  | 'u' :: rest => if (rest.take 4).length = 4 ∧ (rest.take 4).all isHexDigit then some 5 else none
  | _ => none

/-- The length of the rest of a name. -/
def nameTail : (fuel : Nat) → List Char → Nat
  | 0, _ => 0
  | _ + 1, [] => 0
  | fuel + 1, c :: rest =>
    if isNameChar c then 1 + nameTail fuel rest
    else if c = '\\' then
      match unicodeEscape? rest with
      | some n => 1 + n + nameTail fuel (rest.drop n)
      | none => 0
    else 0

/-- A name. -/
def name? (s : List Char) : Option Nat :=
  match s with
  | c :: rest =>
    if isNameStart c then some (1 + nameTail rest.length rest)
    else if c = '\\' then
      (unicodeEscape? rest).map fun n => 1 + n + nameTail rest.length (rest.drop n)
    else none
  | [] => none

/-- A private name: a hash sign and a name. -/
def privateName? (s : List Char) : Option Nat :=
  match s with
  | '#' :: rest => (name? rest).map (1 + ·)
  | _ => none

/-- A name in markup, in which hyphens may stand. -/
def markupName? (s : List Char) : Option Nat :=
  let isStart := fun (c : Char) => c.isAlpha || c == '_' || c == '$'
  let isPart := fun (c : Char) => isStart c || c.isDigit || c == '-'
  let hyphenated :=
    match s with
    | c :: _ =>
      let part := s.takeWhile isPart
      if isStart c ∧ part.contains '-' then some part.length else none
    | [] => none
  longer (name? s) hyphenated

/-! ## Numbers -/

/-- Digits, in which single underscores may stand between two of them. -/
def digits? (isDigit : Char → Bool) : List Char → Option Nat
  | [] => none
  | [c] => if isDigit c then some 1 else none
  | c :: '_' :: rest =>
    if isDigit c then
      match digits? isDigit rest with
      | some n => some (n + 2)
      | none => some 1
    else none
  | c :: d :: rest =>
    if isDigit c then
      match digits? isDigit (d :: rest) with
      | some n => some (n + 1)
      | none => some 1
    else none

/-- Digits of a base after its mark: a zero and one of two letters. -/
def based? (letters : List Char) (isDigit : Char → Bool) (s : List Char) : Option Nat :=
  match s with
  | '0' :: c :: rest =>
    if letters.contains c then (digits? isDigit rest).map (2 + ·) else none
  | _ => none

/-- The length of an exponent, or zero when there is none. -/
def exponent (s : List Char) : Nat :=
  match s with
  | c :: rest =>
    if c = 'e' ∨ c = 'E' then
      let sign := match rest with
        | '+' :: _ | '-' :: _ => 1
        | _ => 0
      match digits? Char.isDigit (rest.drop sign) with
      | some n => 1 + sign + n
      | none => 0
    else 0
  | [] => 0

/-- The whole part of a number with a point or an exponent: zero, or digits of which at most the
first is a zero. -/
def wholePart? (s : List Char) : Option Nat :=
  let zeros := run (· == '0') (s.take 2)
  match s.drop zeros with
  | c :: rest =>
    if zeros ≤ 1 ∧ '1' ≤ c ∧ c ≤ '9' then
      let more := match rest with
        | '_' :: rest => ((digits? Char.isDigit rest).map (1 + ·)).getD 0
        | rest => (digits? Char.isDigit rest).getD 0
      some (zeros + 1 + more)
    else if 1 ≤ zeros then some 1 else none
  | [] => if 1 ≤ zeros then some 1 else none

/-- A number with a point after its whole part, or an exponent. -/
def fractional? (s : List Char) : Option Nat :=
  match wholePart? s with
  | none => none
  | some n =>
    match s.drop n with
    | '.' :: rest =>
      let m := (digits? Char.isDigit rest).getD 0
      some (n + 1 + m + exponent (rest.drop m))
    | rest => if 0 < exponent rest then some (n + exponent rest) else none

/-- A number that starts with a point. -/
def pointFirst? (s : List Char) : Option Nat :=
  match s with
  | '.' :: rest => (digits? Char.isDigit rest).map fun n => 1 + n + exponent (rest.drop n)
  | _ => none

/-- One more for the letter of a big integer. -/
def withSuffix (s : List Char) (n : Option Nat) : Option Nat :=
  n.map fun n => if (s.drop n).head? = some 'n' then n + 1 else n

/-- A number. -/
def number? (s : List Char) : Option Nat :=
  let integer := [based? ['x', 'X'] isHexDigit s, based? ['o', 'O'] isOctalDigit s,
    based? ['b', 'B'] isBinaryDigit s, digits? Char.isDigit s].map (withSuffix s)
  (integer ++ [fractional? s, pointFirst? s]).foldl longer none

/-! ## Strings -/

/-- The length of an escape, after its backslash. -/
def escape? (s : List Char) : Option Nat :=
  match s with
  | [] => none
  | 'x' :: rest => if (rest.take 2).length = 2 ∧ (rest.take 2).all isHexDigit then some 3 else none
  | 'u' :: rest => unicodeEscape? ('u' :: rest)
  | '\r' :: '\n' :: _ => some 2
  | '\r' :: c :: _ => if isLineFeed c then some 2 else some 1
  | '?' :: c :: _ => if isLineFeed c then some 2 else some 1
  | c :: rest =>
    if isOctalDigit c then some (1 + run isOctalDigit (rest.take 2))
    else if c.toNat = 0 then none else some 1

/-- A comment over any number of lines. -/
def blockComment? (s : List Char) : Option Nat :=
  match s with
  | '/' :: '*' :: rest =>
    (Text.splitAtFirst? ['*', '/'] rest).map fun parts => parts.1.length + 4
  | _ => none

/-- A comment up to the end of its line. -/
def lineComment? (s : List Char) : Option Nat :=
  match s with
  | '/' :: '/' :: rest => some (2 + run (fun c => !endsLine c && c.toNat != 0) rest)
  | _ => none

def comment? (s : List Char) : Option Nat := longer (lineComment? s) (blockComment? s)

/-- The end of a string after a line feed in it: nothing but blanks and comments may stand before
the closing quote. -/
def lateQuote? (quote : Char) : (fuel : Nat) → List Char → Option Nat
  | 0, _ => none
  | _ + 1, [] => none
  | fuel + 1, c :: rest =>
    if c = quote then some 1
    else if isSpacing c then (lateQuote? quote fuel rest).map (1 + ·)
    else
      match comment? (c :: rest) with
      | some n => (lateQuote? quote fuel (rest.drop (n - 1))).map (n + ·)
      | none => none

/-- The rest of a string, up to and with its closing quote. -/
def stringTail? (quote : Char) : (fuel : Nat) → List Char → Option Nat
  | 0, _ => none
  | _ + 1, [] => none
  | fuel + 1, c :: rest =>
    if c = quote then some 1
    else if c = '\\' then
      match escape? rest with
      | some n => (stringTail? quote fuel (rest.drop n)).map (1 + n + ·)
      | none => none
    else if c = '\n' ∨ c = '\r' then (lateQuote? quote fuel rest).map (1 + ·)
    else if c.toNat = 0 then none
    else (stringTail? quote fuel rest).map (1 + ·)

/-- A string. -/
def string? (s : List Char) : Option Nat :=
  match s with
  | '"' :: rest => (stringTail? '"' (rest.length + 1) rest).map (1 + ·)
  | '\'' :: rest => (stringTail? '\'' (rest.length + 1) rest).map (1 + ·)
  | _ => none

/-- The text of a template up to its end, an escape, or a substitution. -/
def templateTextLength : List Char → Option Nat
  | [] => none
  | c :: rest =>
    if c = '\x60' ∨ c = '\\' then some 0
    else if c.toNat = 0 then none
    else if c = '$' ∧ rest.head? = some '\x7b' then some 0
    else (templateTextLength rest).map (1 + ·)

/-- A part of a template that is plain text. -/
def templateText? (s : List Char) : Option Nat :=
  match templateTextLength s with
  | some 0 => none
  | n => n

/-- An escape in a template. -/
def templateEscape? (s : List Char) : Option Nat :=
  match s with
  | '\\' :: rest => (escape? rest).map (1 + ·)
  | _ => none

/-! ## Regular expressions -/

/-- The rest of a class in brackets, up to and with its closing bracket. -/
def classTail? : (fuel : Nat) → List Char → Option Nat
  | 0, _ => none
  | _ + 1, [] => none
  | fuel + 1, c :: rest =>
    if c = ']' then some 1
    else if c = '\n' ∨ c.toNat = 0 then none
    else if c = '\\' then
      match rest with
      | d :: rest =>
        if d = '\n' ∨ d.toNat = 0 then none else (classTail? fuel rest).map (2 + ·)
      | [] => none
    else (classTail? fuel rest).map (1 + ·)

/-- The rest of a regular expression, up to and with its closing slash. -/
def regexTail? : (fuel : Nat) → List Char → Option Nat
  | 0, _ => none
  | _ + 1, [] => none
  | fuel + 1, c :: rest =>
    if c = '/' then some 1
    else if c = '\n' ∨ c.toNat = 0 then none
    else if c = '\\' then
      match rest with
      | d :: rest =>
        if d = '\n' ∨ d.toNat = 0 then none else (regexTail? fuel rest).map (2 + ·)
      | [] => none
    else if c = '[' then
      match classTail? (rest.length + 1) rest with
      | some n => (regexTail? fuel (rest.drop n)).map (1 + n + ·)
      | none => none
    else (regexTail? fuel rest).map (1 + ·)

/-- A regular expression with its flags. It is not empty, or it would be a comment. -/
def regex? (s : List Char) : Option Nat :=
  match s with
  | '/' :: c :: rest =>
    if c = '/' ∨ c = '*' then none
    else
      match regexTail? (rest.length + 2) (c :: rest) with
      | some n =>
        some (1 + n + run (fun f => 'a' ≤ f && f ≤ 'z') ((c :: rest).drop n))
      | none => none
  | _ => none

/-! ## Markup -/

/-- A character that ends a text between tags. -/
def endsMarkupText (c : Char) : Bool :=
  c == '<' || c == '>' || c == '\x7b' || c == '\x7d' || c == '&' || c.toNat == 0

/-- Whether a text is more than line feeds with blanks after them. -/
def hasContent (afterFeed : Bool) : List Char → Bool
  | [] => false
  | c :: rest =>
    if c = '\n' then hasContent true rest
    else if afterFeed ∧ isPlainSpace c then hasContent true rest
    else true

/-- The text between tags. -/
def markupText? (s : List Char) : Option Nat :=
  let text := s.takeWhile fun c => !endsMarkupText c
  if hasContent false text then some text.length else none

/-- A character named by a reference. -/
def reference? (s : List Char) : Option Nat :=
  match s with
  | '&' :: '#' :: c :: rest =>
    let (skip, digits, most) :=
      if c = 'x' ∨ c = 'X' then (3, run isHexDigit rest, 6)
      else (2, run Char.isDigit (c :: rest), 5)
    if 1 ≤ digits ∧ digits ≤ most ∧ (s.drop (skip + digits)).head? = some ';' then
      some (skip + digits + 1)
    else none
  | '&' :: rest =>
    let letters := run Char.isAlpha rest
    if 1 ≤ letters ∧ letters ≤ 30 ∧ (rest.drop letters).head? = some ';' then some (letters + 2)
    else none
  | _ => none

/-- The rest of a string in a tag. An ampersand begins a reference unless it stands before something
that no reference begins with. -/
def markupStringTail? (quote : Char) : (fuel : Nat) → List Char → Option Nat
  | 0, _ => none
  | _ + 1, [] => none
  | fuel + 1, c :: rest =>
    if c = quote then some 1
    else if c.toNat = 0 then none
    else if c = '&' then
      match reference? (c :: rest) with
      | some n => (markupStringTail? quote fuel (rest.drop (n - 1))).map (n + ·)
      | none =>
        match rest with
        | d :: rest =>
          if d = '#' ∨ d.isAlpha ∨ d.toNat = 0 then none
          else (markupStringTail? quote fuel rest).map (2 + ·)
        | [] => none
    else (markupStringTail? quote fuel rest).map (1 + ·)

/-- A string in a tag. -/
def markupString? (s : List Char) : Option Nat :=
  match s with
  | '"' :: rest => (markupStringTail? '"' (rest.length + 1) rest).map (1 + ·)
  | '\'' :: rest => (markupStringTail? '\'' (rest.length + 1) rest).map (1 + ·)
  | _ => none

/-- A line that names an interpreter. -/
def hashBang? (s : List Char) : Option Nat :=
  match s with
  | '#' :: '!' :: rest => some (2 + run (fun c => c != '\n' && c.toNat != 0) rest)
  | _ => none

/-- A comment that opens or closes like markup, up to the end of its line. -/
def markupComment? (s : List Char) : Option Nat :=
  let opens := ['<', '!', '-', '-'].isPrefixOf s || ['-', '-', '>'].isPrefixOf s
  if opens then some (run (fun c => !isLineFeed c && c.toNat != 0) s) else none

end ChangeReview.Syntax.Lexeme
