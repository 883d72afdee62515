import ChangeReview.Syntax.Character

/-!
# Inserted semicolons

A statement may end without a semicolon before a closing brace, at the end of the text, and before a
line feed that is followed by something that cannot continue it. The dialects with types decide
this differently from the one without: they do not look through comments before the line feed, and
they know places, those of types and of signatures, where other characters continue a statement.
-/

namespace ChangeReview.Syntax.Insertion

/-- What a place is like: whether a binary operator may follow, and whether a body may. -/
structure Context where
  operators : Bool
  body : Bool
  deriving DecidableEq, Repr

/-- The text after a comment over lines, from after its opening, and whether a line ended in it. -/
def afterBlock (broken : Bool) : List Char → Bool × List Char
  | [] => (broken, [])
  | '*' :: '/' :: rest => (broken, rest)
  | c :: rest => afterBlock (broken || isLineFeed c) rest

/-- What follows blanks and comments. -/
inductive Ahead where
  /-- A slash that opens no comment. -/
  | slash
  /-- A comment on one line. -/
  | comment (rest : List Char)
  /-- Anything else. -/
  | text (rest : List Char)

/-- Skip blanks and comments, up to and with the first comment over lines that is not followed by a
slash. -/
def skipToBlock : (fuel : Nat) → (broken : Bool) → List Char → Ahead
  | 0, _, s => .text s
  | fuel + 1, broken, s =>
    match s.dropWhile isPlainSpace with
    | '/' :: '/' :: rest => skipToBlock fuel broken (rest.dropWhile fun c => !isLineFeed c)
    | '/' :: '*' :: rest =>
      let (broken, rest) := afterBlock broken rest
      if rest.head? = some '/' then skipToBlock fuel broken rest
      else if broken then .text rest else .comment rest
    | '/' :: _ => .slash
    | rest => .text rest

/-- Skip blanks and comments, unless a slash stands there that opens no comment. -/
def skipAll? (endsComment : Char → Bool) : (fuel : Nat) → List Char → Option (List Char)
  | 0, s => some s
  | fuel + 1, s =>
    match s.dropWhile isPlainSpace with
    | '/' :: '/' :: rest => skipAll? endsComment fuel (rest.dropWhile fun c => !endsComment c)
    | '/' :: '*' :: rest => skipAll? endsComment fuel (afterBlock false rest).2
    | '/' :: _ => none
    | rest => some rest

/-- Whether a text starts with a word and goes on without a letter. -/
def startsWord (word : List Char) (s : List Char) : Bool :=
  word.isPrefixOf s && !((s.drop word.length).head?.any Char.isAlpha)

/-- Whether what follows a line feed cannot continue an expression, by its sign or word. -/
def startsOperand (s : List Char) : Bool :=
  match s with
  | '+' :: c :: _ => c == '+'
  | ['+'] => false
  | '-' :: c :: _ => c == '-'
  | ['-'] => false
  | '!' :: c :: _ => c != '='
  | 'i' :: _ => !(startsWord ['i', 'n'] s || startsWord "instanceof".toList s)
  | _ => true

/-- Characters that continue an expression after a line feed. -/
def continuesUntyped : List Char := "\x60,:;*%><=[(?^|&/".toList

/-- Characters that continue an expression or a type after a line feed. -/
def continuesTyped : List Char := "\x60,.;*%><=?^|&/:".toList

/-- Whether a statement ends before the text after a line feed. -/
def afterFeedUntyped (s : List Char) : Bool :=
  match skipAll? isLineFeed s.length s with
  | none => false
  | some ('.' :: rest) => rest.head?.any Char.isDigit
  | some [] => true
  | some (c :: rest) => !continuesUntyped.contains c && startsOperand (c :: rest)

/-- Whether a statement ends before a text, where there are no types. -/
def untyped (context : Context) : (fuel : Nat) → List Char → Bool
  | 0, _ => true
  | _ + 1, [] => true
  | fuel + 1, '/' :: rest =>
    let onward := fun s => match s with
      | [] => false
      | '\x7d' :: _ => true
      | c :: rest =>
        if isLineFeed c then afterFeedUntyped rest
        else isPlainSpace c && untyped context fuel rest
    match skipToBlock (fuel + 1) false ('/' :: rest) with
    | .slash => false
    | .comment rest => onward rest
    | .text rest =>
      if !context.operators ∧ rest.head? ≠ some ',' ∧ rest.head? ≠ some '=' then true
      else onward rest
  | fuel + 1, c :: rest =>
    if c = '\x7d' ∨ c.toNat = 0 then true
    else if isLineFeed c then afterFeedUntyped rest
    else isPlainSpace c && untyped context fuel rest

/-- Whether a statement ends before the text after a line feed, where there are types. -/
def afterFeedTyped (context : Context) (s : List Char) : Bool :=
  match skipAll? (· == '\n') s.length s with
  | none => false
  | some [] => true
  | some (c :: rest) =>
    if c = '\x7b' then !context.body
    else if c = '(' ∨ c = '[' then !context.operators
    else !continuesTyped.contains c && startsOperand (c :: rest)

/-- Whether a statement ends before a text, where there are types. -/
def typed (context : Context) : List Char → Bool
  | [] => true
  | c :: rest =>
    if c.toNat = 0 then true
    else if c = '\x7d' then
      if (rest.dropWhile isPlainSpace).head? = some ':' then context.operators else true
    else if c = '\n' then afterFeedTyped context rest
    else isPlainSpace c && typed context rest

/-- Whether a statement ends before a text. -/
def test (hasTypes : Bool) (context : Context) (s : List Char) : Bool :=
  if hasTypes then typed context s else untyped context s.length s

end ChangeReview.Syntax.Insertion
