/-!
# Why a text is not JSON

A failure is a cause and a place. The place is the number of bytes read; its line and column are
counted from the text, columns in bytes from the last line feed.
-/

namespace ChangeReview.Json

/-- Why reading stopped. -/
inductive Cause where
  | endInValue
  | endInObject
  | endInList
  | endInString
  | expectedValue
  | expectedWord
  | expectedColon
  | expectedCommaOrBrace
  | expectedCommaOrBracket
  | keyNotString
  | trailingComma
  | trailingCharacters
  | invalidNumber
  | numberOutOfRange
  | invalidEscape
  | loneSurrogate
  | unpairedEscape
  | controlCharacter
  | tooDeep
  deriving DecidableEq, Repr

/-- The text of a cause. -/
def Cause.message : Cause → String
  | .endInValue => "EOF while parsing a value"
  | .endInObject => "EOF while parsing an object"
  | .endInList => "EOF while parsing a list"
  | .endInString => "EOF while parsing a string"
  | .expectedValue => "expected value"
  | .expectedWord => "expected ident"
  | .expectedColon => "expected `:`"
  | .expectedCommaOrBrace => "expected `,` or `\x7d`"
  | .expectedCommaOrBracket => "expected `,` or `]`"
  | .keyNotString => "key must be a string"
  | .trailingComma => "trailing comma"
  | .trailingCharacters => "trailing characters"
  | .invalidNumber => "invalid number"
  | .numberOutOfRange => "number out of range"
  | .invalidEscape => "invalid escape"
  | .loneSurrogate => "lone leading surrogate in hex escape"
  | .unpairedEscape => "unexpected end of hex escape"
  | .controlCharacter => "control character (\\u0000-\\u001F) found while parsing a string"
  | .tooDeep => "recursion limit exceeded"

/-- A place in a text: lines count from one, columns are bytes of the line read so far. -/
structure Place where
  line : Nat
  column : Nat
  deriving DecidableEq, Repr

/-- The place reached after `bytes` bytes of a text, from a given place on. A character that is
cut by the limit counts with the bytes it still has room for. -/
def Place.after (here : Place) : List Char → Nat → Place
  | [], _ => here
  | c :: rest, bytes =>
    if bytes = 0 then here
    else if c = '\n' then Place.after ⟨here.line + 1, 0⟩ rest (bytes - 1)
    else Place.after ⟨here.line, here.column + min bytes c.utf8Size⟩ rest (bytes - c.utf8Size)

/-- A cause, the text that was not read yet, and how many of its bytes were looked at. -/
structure Stop where
  cause : Cause
  rest : List Char
  ahead : Nat
  deriving Repr

/-- Number of bytes of a text. -/
def byteCount (s : List Char) : Nat := s.foldr (fun c n => c.utf8Size + n) 0

/-- A failure as it is reported. -/
structure Failure where
  cause : Cause
  place : Place
  deriving DecidableEq, Repr

/-- The report of a stop in a text. -/
def Stop.report (stop : Stop) (text : List Char) : Failure :=
  let read := byteCount text - byteCount stop.rest + min stop.ahead (byteCount stop.rest)
  ⟨stop.cause, Place.after ⟨1, 0⟩ text read⟩

/-- Cause, line and column in words. -/
def Failure.message (f : Failure) : String :=
  f.cause.message ++ " at line " ++ toString f.place.line ++ " column " ++ toString f.place.column

end ChangeReview.Json
