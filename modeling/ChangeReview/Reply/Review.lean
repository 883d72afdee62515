import ChangeReview.Finding
import ChangeReview.Issue
import ChangeReview.Json.Reader
import ChangeReview.Number.Decimal

/-!
# From replies and findings to issues

A decoded reply is read leniently: a field that cannot be used takes its default, and an entry that
is no object is skipped. A finding becomes the security issue that reports it.
-/

namespace ChangeReview.Reply

open Json

/-- What a reply says, brought into form. -/
structure ModelReview where
  issues : List Issue
  /-- Rounded and clamped; none when absent or not numeric. -/
  securityScore : Option Nat
  recommendations : List String
  deriving DecidableEq, Repr

/-! ## Fields of an issue -/

/-- A text without the blanks at its ends, unless nothing is left of it. -/
def usableText? (s : String) : Option String :=
  let t := Text.trimmed s
  if t.isEmpty then none else some t

/-- A text field. -/
def text? (o : Members) (key : String) : Option String :=
  ((o.get? key).bind Value.string?).bind usableText?

/-- A field that names one of several choices. -/
def choice? {α : Type} (ofText? : String → Option α) (o : Members) (key : String) : Option α :=
  ((o.get? key).bind Value.string?).bind ofText?

/-- What stands for a missing location. -/
def unknownLocation : String := "Location unknown"

/-- The location: a text, or a number that is taken for a line. -/
def location (o : Members) : String :=
  match (o.get? "location").orElse fun _ => o.get? "line" with
  | some (.string s) => (usableText? s).getD unknownLocation
  | some (.number n) => "Line " ++ n.text
  | _ => unknownLocation

/-- The weakness: a text, or a number. -/
def cwe? (o : Members) : Option String :=
  match o.get? "cwe" with
  | some (.string s) => usableText? s
  | some (.number n) => some ("CWE-" ++ n.text)
  | _ => none

/-- The issue that an object of a reply describes. -/
def issueOfObject (o : Members) : Issue where
  issueType := (choice? IssueType.ofText? o "type").getD .improvement
  title := (text? o "title").getD "Untitled issue"
  description := (text? o "description").getD ""
  file := ((text? o "file").orElse fun _ => text? o "filename").getD "unknown"
  location := location o
  severity := (choice? Severity.ofText? o "severity").getD .medium
  cwe := cwe? o
  confidence := (choice? Confidence.ofText? o "confidence").getD .medium
  exploitability := (choice? Exploitability.ofText? o "exploitability").getD .none
  origin := .model

/-! ## The whole reply -/

/-- A number rounded to the nearest score, halves away from zero. -/
def scoreOfReal (x : Binary64) : Nat := (min 100 (max 0 x.round)).toNat

/-- A score, from a number or a text that is one. -/
def scoreOfValue? : Value → Option Nat
  | .number n => some (scoreOfReal n.toBinary64)
  | .string s => (Binary64.ofText? (Text.trim s.toList)).map scoreOfReal
  | _ => none

/-- The items of an array field; none when it is no array. -/
def itemsOf (o : Members) (key : String) : List Value :=
  ((o.get? key).bind Value.items?).getD []

/-- What a reply says. -/
def ModelReview.ofObject (o : Members) : ModelReview where
  issues := ((itemsOf o "issues").filterMap Value.members?).map issueOfObject
  securityScore := (o.get? "securityScore").bind scoreOfValue?
  recommendations := ((itemsOf o "recommendations").filterMap Value.string?).filterMap usableText?

/-! ## Findings -/

/-- The issue that reports a finding. -/
def issueOfFinding (filename : String) (f : Finding) : Issue where
  issueType := .security
  title := f.vulnerability.label
  description := f.description
  file := filename
  location := f.location.text
  severity := f.severity
  cwe := f.cwe
  confidence := f.confidence
  exploitability := f.exploitability
  origin := .scanner

/-- One issue per finding, in file then finding order. -/
def scannerIssues (analyses : List FileAnalysis) : List Issue :=
  analyses.flatMap fun a => a.findings.map (issueOfFinding a.filename)

end ChangeReview.Reply
