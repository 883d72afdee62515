import ChangeReview.Syntax.Insertion
import ChangeReview.Syntax.Lexeme
import ChangeReview.Syntax.Node

/-!
# Places in a source text

A place lies between two tokens. It keeps the point after the first, where the second starts, and the
comments between them, each of which becomes a node. The word that the second token may be is read
once.
-/

namespace ChangeReview.Syntax

/-- A point in a text: what follows, how many characters that is, and its position. -/
structure Point where
  rest : List Char
  left : Nat
  position : Position

namespace Point

/-- The position after a character. -/
def after (c : Char) (p : Position) : Position :=
  if c = '\n' then ⟨p.row + 1, 0⟩ else ⟨p.row, p.column + c.utf8Size⟩

/-- The point some characters on. -/
def advance : (count : Nat) → Point → Point
  | 0, point => point
  | count + 1, point =>
    match point.rest with
    | [] => point
    | c :: rest => advance count ⟨rest, point.left - 1, after c point.position⟩

/-- The text of the next characters. -/
def textAhead (point : Point) (count : Nat) : String := String.ofList (point.rest.take count)

/-- Read a lexeme: a node for it and the point after it. -/
def lexeme? (kind : Option String) (scan : List Char → Option Nat) (point : Point) :
    Option (Node × Point) :=
  (scan point.rest).map fun count =>
    let text := point.textAhead count
    (.mk (kind.getD text) kind.isSome none point.position text [], point.advance count)

/-- Skip blank characters. -/
def skipBlank : (fuel : Nat) → Point → Point
  | 0, point => point
  | fuel + 1, point =>
    match point.rest with
    | c :: rest =>
      if isSpacing c then skipBlank fuel ⟨rest, point.left - 1, after c point.position⟩ else point
    | [] => point

/-- The comment that starts at a point. -/
def comment? (point : Point) : Option (Node × Point) :=
  match point.rest with
  | '/' :: '/' :: _ | '/' :: '*' :: _ => point.lexeme? (some "comment") Lexeme.comment?
  | _ => none

/-- The comment in the form of markup that starts at a point. -/
def markupComment? (point : Point) : Option (Node × Point) :=
  match point.rest with
  | '<' :: '!' :: _ | '-' :: '-' :: _ => point.lexeme? (some "html_comment") Lexeme.markupComment?
  | _ => none

/-- Skip blanks and comments, and put the comments in front of others, the last first. -/
def skipComments : (fuel : Nat) → List Node → Point → List Node × Point
  | 0, comments, point => (comments, point)
  | fuel + 1, comments, point =>
    let point := point.skipBlank (point.left + 1)
    match point.comment? with
    | some (comment, point) => skipComments fuel (comment :: comments) point
    | none => (comments, point)

/-- The word that starts at a point, or an empty text. -/
def word (point : Point) : String :=
  match Lexeme.name? point.rest with
  | some count => point.textAhead count
  | none => ""

/-- Whether a statement may end at a point without a semicolon, perhaps after comments. -/
def mayEnd (hasTypes : Bool) (context : Insertion.Context) : (fuel : Nat) → Point → Bool
  | 0, _ => false
  | fuel + 1, point =>
    Insertion.test hasTypes context point.rest ||
      match comment? (point.skipBlank (point.left + 1)) with
      | some (_, point) => mayEnd hasTypes context fuel point
      | none => false

end Point

/-- A place between tokens. -/
structure Place where
  /-- Where the token before it ends. -/
  point : Point
  /-- The comments before the next token, the last first. -/
  comments : List Node
  /-- Where the next token starts. -/
  next : Point
  /-- The word that starts there, or an empty text. -/
  word : String

namespace Place

/-- The place at a point, with comments before it. -/
def following (comments : List Node) (point : Point) : Place :=
  let (comments, next) := point.skipComments (point.left + 1) comments
  ⟨point, comments, next, next.word⟩

/-- The place at which a text starts. -/
def ofSource (source : String) : Place := following [] ⟨source.toList, source.length, ⟨0, 0⟩⟩

/-- The next token as a lexeme, before it the comments, and the place after it. -/
def token? (kind : Option String) (scan : List Char → Option Nat) (place : Place) :
    Option (List Node × Place) :=
  (place.next.lexeme? kind scan).map fun (token, point) =>
    (token :: place.comments, following [] point)

/-- The next token as a word that passes a test. -/
def word? (kind : Option String) (test : String → Bool) (place : Place) :
    Option (List Node × Place) :=
  if place.word ≠ "" ∧ test place.word then
    some (.mk (kind.getD place.word) kind.isSome none place.next.position place.word [] ::
      place.comments, following [] (place.next.advance place.word.length))
  else none

/-- A lexeme without a blank or comment before it. -/
def close? (kind : Option String) (scan : List Char → Option Nat) (place : Place) :
    Option (List Node × Place) :=
  (place.point.lexeme? kind scan).map fun (token, point) => ([token], following [] point)

/-- Take comments in the form of markup for comments. -/
def settle : (fuel : Nat) → Place → Place
  | 0, place => place
  | fuel + 1, place =>
    match place.next.markupComment? with
    | some (comment, point) => settle fuel (following (comment :: place.comments) point)
    | none => place

/-- Whether a statement may end here without a semicolon. -/
def mayEnd (hasTypes : Bool) (context : Insertion.Context) (place : Place) : Bool :=
  place.point.mayEnd hasTypes context (place.point.left + 1)

/-- Nothing but blanks and comments follows. -/
def atEnd (place : Place) : Bool := place.next.rest.isEmpty

end Place

namespace Node

/-- A comment stands anywhere and belongs to no construct. -/
def isComment (n : Node) : Bool := n.kind == "comment" || n.kind == "html_comment"

/-- A construct from its parts, in source order; the comments before its first part stay outside.
Both what stays outside and the construct are given the last first. -/
def build (kind : String) (start : Position) (parts : List Node) : List Node :=
  let before := parts.takeWhile isComment
  let inside := parts.dropWhile isComment
  let start := match inside with
    | [] => start
    | first :: _ => first.start
  mk kind true none start "" inside :: before.reverse

end Node

end ChangeReview.Syntax
