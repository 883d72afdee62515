/-!
# Lines

A line ends at a line feed, and a carriage return right before that line feed belongs to the line
ending. A final line feed opens no further line.
-/

namespace ChangeReview.Text

/-- Drop one carriage return from the end of a line that a line feed closed. -/
def dropReturn (line : List Char) : List Char :=
  if line.getLast? = some '\r' then line.dropLast else line

/-- The text split at its line feeds; the last part follows the last line feed. -/
def splitFeeds : List Char → List (List Char)
  | [] => [[]]
  | c :: rest =>
    if c = '\n' then [] :: splitFeeds rest
    else
      match splitFeeds rest with
      | [] => [[c]]
      | line :: lines => (c :: line) :: lines

/-- The lines of a text. The last part keeps a carriage return, since no line feed follows it. -/
def linesOfParts : List (List Char) → List (List Char)
  | [] => []
  | [last] => if last.isEmpty then [] else [last]
  | line :: next :: rest => dropReturn line :: linesOfParts (next :: rest)

/-- The lines of a text, without their endings. -/
def lines (s : List Char) : List (List Char) := linesOfParts (splitFeeds s)

/-- Number of lines. -/
def lineCount (s : String) : Nat := (lines s.toList).length

end ChangeReview.Text
