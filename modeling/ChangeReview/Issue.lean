import ChangeReview.Severity

/-!
# Review issues

The one shape in which detections of the model and of the scanner are reported.
-/

namespace ChangeReview

/-- What an issue is about. -/
inductive IssueType where
  | readability
  | logic
  | security
  | performance
  | documentation
  | testing
  | improvement
  deriving DecidableEq, Repr, Inhabited

/-- Which detector an issue comes from. -/
inductive IssueOrigin where
  | model
  | scanner
  | hybrid
  deriving DecidableEq, Repr, Inhabited

namespace IssueType

def all : List IssueType :=
  [.readability, .logic, .security, .performance, .documentation, .testing, .improvement]

def name : IssueType → String
  | .readability => "readability"
  | .logic => "logic"
  | .security => "security"
  | .performance => "performance"
  | .documentation => "documentation"
  | .testing => "testing"
  | .improvement => "improvement"

/-- Lenient reading, with a synonym for some types. -/
def ofText? (s : String) : Option IssueType :=
  match looseName s with
  | "readability" | "style" => some .readability
  | "logic" | "bug" => some .logic
  | "security" => some .security
  | "performance" => some .performance
  | "documentation" | "docs" => some .documentation
  | "testing" | "tests" => some .testing
  | "improvement" => some .improvement
  | _ => none

def toJson (t : IssueType) : Json.Value := .string t.name

def ofJson : Json.Value → Record.Read IssueType := Record.plainVariant all name

theorem mem_all (t : IssueType) : t ∈ all := by cases t <;> decide

theorem ofText?_name (t : IssueType) : ofText? t.name = some t := by cases t <;> rfl

theorem ofJson_toJson (t : IssueType) : ofJson t.toJson = .ok t := by cases t <;> rfl

end IssueType

namespace IssueOrigin

def all : List IssueOrigin := [.model, .scanner, .hybrid]

def name : IssueOrigin → String
  | .model => "model"
  | .scanner => "scanner"
  | .hybrid => "hybrid"

def toJson (o : IssueOrigin) : Json.Value := .string o.name

def ofJson : Json.Value → Record.Read IssueOrigin := Record.plainVariant all name

theorem mem_all (o : IssueOrigin) : o ∈ all := by cases o <;> decide

theorem ofJson_toJson (o : IssueOrigin) : ofJson o.toJson = .ok o := by cases o <;> rfl

end IssueOrigin

/-- One review item. -/
structure Issue where
  issueType : IssueType
  title : String
  description : String
  file : String
  location : String
  severity : Severity
  cwe : Option String
  confidence : Confidence
  exploitability : Exploitability
  origin : IssueOrigin
  deriving DecidableEq, Repr, Inhabited

namespace Issue

open Record.Fields

def toJson (i : Issue) : Json.Value := .ofPairs [
  ("type", i.issueType.toJson),
  ("title", .string i.title),
  ("description", .string i.description),
  ("file", .string i.file),
  ("location", .string i.location),
  ("severity", i.severity.toJson),
  ("cwe", .ofOption (i.cwe.map .string)),
  ("confidence", i.confidence.toJson),
  ("exploitability", i.exploitability.toJson),
  ("origin", i.origin.toJson)]

def fields : Record.Fields Issue :=
  Issue.mk
    <$> required "type" IssueType.ofJson
    <*> required "title" Record.string
    <*> required "description" Record.string
    <*> required "file" Record.string
    <*> required "location" Record.string
    <*> required "severity" Severity.ofJson
    <*> maybe "cwe" Record.string
    <*> required "confidence" Confidence.ofJson
    <*> required "exploitability" Exploitability.ofJson
    <*> required "origin" IssueOrigin.ofJson

def ofJson : Json.Value → Record.Read Issue := Record.Fields.record "ReviewIssue" fields

end Issue

end ChangeReview
