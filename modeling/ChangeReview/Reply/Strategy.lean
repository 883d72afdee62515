import ChangeReview.Json.Reader
import ChangeReview.Text.Ascii
import ChangeReview.Text.Blank
import ChangeReview.Text.Lines
import ChangeReview.Text.Search

/-!
# Finding the payload of a reply

A reply should be one JSON object but often stands in a fence or between prose. Five strategies
each cut a candidate out of the reply. All but the last cut a contiguous part; the last removes
fence markers and leading lines of prose first.
-/

namespace ChangeReview.Reply

open Text

/-- A fence marker. -/
def fence : List Char := ['\x60', '\x60', '\x60']

/-- The label of a fence that holds JSON. -/
def label : List Char := ['j', 's', 'o', 'n']

/-- Whether a text starts with a fence marker. -/
def startsFence (s : List Char) : Bool := fence.isPrefixOf s

/-- Whether a text starts with the label, in any ASCII case. -/
def startsLabel (s : List Char) : Bool := lowerAscii (s.take label.length) == label

/-- Whether a text starts with a fence marker and the label. -/
def startsLabelled (s : List Char) : Bool := startsFence s && startsLabel (s.drop fence.length)

/-- What stands in the fence that a text starts with: from the next line to the next marker. -/
def fenceInterior (s : List Char) : Option (List Char) :=
  match (s.drop fence.length).dropWhile (· ≠ '\n') with
  | [] => none
  | _ :: body => (splitWhere? startsFence body).map (·.1)

/-- The interior of the first labelled fence. -/
def labelledFence (s : List Char) : Option (List Char) :=
  (splitWhere? startsLabelled s).bind fun parts => fenceInterior parts.2

/-- The interior of the first fence. -/
def anyFence (s : List Char) : Option (List Char) :=
  (splitWhere? startsFence s).bind fun parts => fenceInterior parts.2

/-- From the first opening brace to the last closing brace after it. -/
def braceSpan (s : List Char) : Option (List Char) :=
  let span := ((s.dropWhile (· ≠ '\x7b')).reverse.dropWhile (· ≠ '\x7d')).reverse
  if span.isEmpty then none else some span

/-- The text without its fence markers and the labels right after them. -/
def unfence (s : List Char) : List Char :=
  match s with
  | [] => []
  | c :: rest =>
    if startsFence (c :: rest) then
      let after := rest.drop 2
      unfence (if startsLabel after then after.drop 4 else after)
    else c :: unfence rest
termination_by s.length
decreasing_by
  · split <;> simp only [List.length_drop, List.length_cons] <;> omega
  · simp

/-- Lines joined by line feeds. -/
def joinLines : List (List Char) → List Char
  | [] => []
  | [line] => line
  | line :: next :: rest => line ++ '\n' :: joinLines (next :: rest)

/-- Whether a line starts with an opening brace, blanks aside. -/
def opensObject (line : List Char) : Bool := (trimStart line).head? == some '\x7b'

/-- The text without fence markers and without the lines before the first that opens an object. -/
def stripProse (s : List Char) : List Char :=
  joinLines ((lines (unfence s)).dropWhile fun line => !opensObject line)

/-- A way to find the payload. -/
inductive Strategy where
  | direct
  | labelledFence
  | anyFence
  | braceSpan
  | proseStripped
  deriving DecidableEq, Repr

namespace Strategy

/-- The strategies in the order in which they are tried. -/
def all : List Strategy := [.direct, .labelledFence, .anyFence, .braceSpan, .proseStripped]

def name : Strategy → String
  | .direct => "direct parse"
  | .labelledFence => "labelled fence"
  | .anyFence => "any fence"
  | .braceSpan => "brace span"
  | .proseStripped => "prose-stripped braces"

/-- The candidate that a strategy cuts out. -/
def candidate (strategy : Strategy) (raw : List Char) : Option (List Char) :=
  match strategy with
  | .direct => some raw
  | .labelledFence => Reply.labelledFence raw
  | .anyFence => Reply.anyFence raw
  | .braceSpan => Reply.braceSpan raw
  | .proseStripped => Reply.braceSpan (stripProse raw)

end Strategy

end ChangeReview.Reply
