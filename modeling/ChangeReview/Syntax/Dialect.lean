import ChangeReview.Path
import ChangeReview.Syntax.Node
import ChangeReview.Text.Ascii

/-!
# Dialects

The dialects of the scripting languages that are parsed, which dialect a file name asks for, and
parsing with the first of several grammars that accepts a text. A grammar is any function from texts
to trees; a text with a syntax error anywhere has no tree.
-/

namespace ChangeReview.Syntax

inductive Dialect where
  | javaScript
  | typeScript
  | tsx
  deriving DecidableEq, Repr, Inhabited

namespace Dialect

def name : Dialect → String
  | .javaScript => "JavaScript"
  | .typeScript => "TypeScript"
  | .tsx => "Tsx"

def all : List Dialect := [.javaScript, .typeScript, .tsx]

def ofName? (s : String) : Option Dialect := all.find? (·.name == s)

/-- The dialect of an extension, in any ASCII case. -/
def ofExtension? (ext : String) : Option Dialect :=
  let e := Text.loweredAscii ext
  if ["js", "mjs", "cjs", "jsx"].contains e then some .javaScript
  else if ["ts", "mts", "cts"].contains e then some .typeScript
  else if e = "tsx" then some .tsx
  else none

/-- The dialect of a file name. -/
def ofFilename? (filename : String) : Option Dialect :=
  (Path.extension? filename).bind ofExtension?

/-- The dialects to try, the most specific first. -/
def candidates : Dialect → List Dialect
  | .javaScript => [.javaScript, .tsx]
  | .typeScript => [.typeScript, .tsx]
  | .tsx => [.tsx]

end Dialect

/-- A parser for each dialect. -/
abbrev Grammars := Dialect → String → Option Node

/-- Why a text has no tree: the dialects that were tried. -/
inductive SyntaxFault where
  | rejected
  | rejectedByAll (tried : List Dialect)
  deriving DecidableEq, Repr

namespace SyntaxFault

/-- What one grammar says of a text that it rejects. -/
def rejection : String := "Source contains syntax errors"

def message : SyntaxFault → String
  | .rejected => rejection
  | .rejectedByAll tried =>
    "No grammar accepted the source (" ++
      String.intercalate "; " (tried.map fun d => d.name ++ ": " ++ rejection) ++ ")"

end SyntaxFault

/-- Parse with one grammar. -/
def parseOwn (grammars : Grammars) (dialect : Dialect) (source : String) : Except SyntaxFault Node :=
  match grammars dialect source with
  | some tree => .ok tree
  | none => .error .rejected

/-- Parse with the first grammar that accepts, and name it. -/
def firstAccepted? (grammars : Grammars) (source : String) :
    List Dialect → Option (Node × Dialect)
  | [] => none
  | d :: rest =>
    match grammars d source with
    | some tree => some (tree, d)
    | none => firstAccepted? grammars source rest

/-- Parse with the candidates of a dialect. -/
def parseWithFallback (grammars : Grammars) (dialect : Dialect) (source : String) :
    Except SyntaxFault (Node × Dialect) :=
  match firstAccepted? grammars source dialect.candidates with
  | some accepted => .ok accepted
  | none => .error (.rejectedByAll dialect.candidates)

end ChangeReview.Syntax
