/-!
# Paths

Slash-separated paths as texts. Empty segments and single dots between other segments name no
directory of their own; a dot that the path begins with does. Nothing is looked up: two dots are a
segment like any other.
-/

namespace ChangeReview.Path

/-- A text split at its slashes. -/
def segments : List Char → List (List Char)
  | [] => [[]]
  | c :: rest =>
    if c = '/' then [] :: segments rest
    else
      match segments rest with
      | [] => [[c]]
      | s :: more => (c :: s) :: more

/-- Segments that name no directory of their own. -/
def isIdle (segment : List Char) : Bool := segment.isEmpty || segment == ['.']

/-- Join segments with slashes. -/
def joinSegments : List (List Char) → List Char
  | [] => []
  | [s] => s
  | s :: t :: rest => s ++ '/' :: joinSegments (t :: rest)

/-- The part that belongs to the beginning of a path: a slash, or a single dot. -/
def splitStart (path : List Char) : List Char × List Char :=
  match path with
  | '/' :: rest => (['/'], rest)
  | ['.'] => (['.'], [])
  | '.' :: '/' :: rest => (['.'], '/' :: rest)
  | rest => ([], rest)

/-- Drop idle segments from the end. -/
def dropIdleEnd (ss : List (List Char)) : List (List Char) :=
  (ss.reverse.dropWhile isIdle).reverse

/-- The path without its last segment and the separators before it. A path that is only a slash,
or empty, has no parent. -/
def parent? (path : String) : Option String :=
  let (start, body) := splitStart path.toList
  let named := dropIdleEnd (segments body)
  if named.isEmpty then
    if start == ['.'] then some "" else none
  else some (String.ofList (start ++ joinSegments (dropIdleEnd named.dropLast)))

/-- A path and its parents, nearest first, at most `count` of them. -/
def ancestors (path : String) : (count : Nat) → List String
  | 0 => []
  | count + 1 =>
    path ::
      match parent? path with
      | some p => ancestors p count
      | none => []

/-- The path of a name in a directory. -/
def join (directory name : String) : String :=
  if directory.isEmpty || directory.endsWith "/" then directory ++ name
  else directory ++ "/" ++ name

/-- The last segment, when it names something. -/
def fileName? (path : String) : Option (List Char) :=
  match ((segments path.toList).filter fun s => !isIdle s).getLast? with
  | some s => if s == ['.', '.'] then none else some s
  | none => none

/-- What follows the last dot of the file name; a name whose only dot comes first has none. -/
def extension? (path : String) : Option String :=
  match fileName? path with
  | none => none
  | some name =>
    let after := (name.reverse.takeWhile (· ≠ '.')).reverse
    if after.length + 1 < name.length then some (String.ofList after) else none

end ChangeReview.Path
