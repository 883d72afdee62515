import ChangeReview.Finding
import ChangeReview.Issue.Summary
import ChangeReview.Phase

/-!
# The outcome of a review

Everything one run hands on: its issues with their summary, the file analyses, scores,
recommendations, metadata, and the error that degraded it, if any. Below the record stand the views
derived from it: the risk score, the most frequent weaknesses and the security summary.
-/

namespace ChangeReview

/-- How a run ended. -/
inductive OutcomeStatus where
  /-- Model and scanner results were merged. -/
  | completed
  /-- The model failed and scanner findings stand in. -/
  | completedWithFindings
  /-- The model failed and the scanner found nothing. -/
  | degraded
  /-- An internal fault. -/
  | failed
  deriving DecidableEq, Repr, Inhabited

def OutcomeStatus.name : OutcomeStatus → String
  | .completed => "completed"
  | .completedWithFindings => "completed_with_findings"
  | .degraded => "degraded"
  | .failed => "failed"

/-- What went wrong, as a code. -/
inductive ErrorCode where
  | modelCall
  | responseDecode
  | pipelineFault
  deriving DecidableEq, Repr, Inhabited

namespace ErrorCode

def all : List ErrorCode := [.modelCall, .responseDecode, .pipelineFault]

def text : ErrorCode → String
  | .modelCall => "E060"
  | .responseDecode => "E061"
  | .pipelineFault => "E062"

def ofText? (s : String) : Option ErrorCode := all.find? (·.text == s)

end ErrorCode

/-- The error attached to an outcome. -/
structure ErrorDetails where
  code : ErrorCode
  message : String
  phase : Option Phase
  deriving DecidableEq, Repr

def ErrorDetails.toJson (e : ErrorDetails) : Json.Value := .ofPairs [
  ("code", .string e.code.text),
  ("message", .string e.message),
  ("phase", .ofOption (e.phase.map fun p => .string p.name))]

/-- Version of the analysis, written into every outcome. -/
def analysisVersion : String := "0.3.0"

/-- Facts about a run. -/
structure Metadata where
  filesAnalyzed : Nat
  syntaxAnalysisPerformed : Bool
  model : String
  codeFileTypes : List String
  deriving DecidableEq, Repr

namespace Metadata

def empty : Metadata := ⟨0, false, "", []⟩

def toJson (m : Metadata) : Json.Value := .ofPairs [
  ("files_analyzed", .ofNat m.filesAnalyzed),
  ("syntax_analysis_performed", .bool m.syntaxAnalysisPerformed),
  ("analysis_version", .string analysisVersion),
  ("model", .string m.model),
  ("code_file_types", .array (m.codeFileTypes.map .string))]

end Metadata

/-- Outcome of one run. -/
structure Outcome where
  issues : List Issue
  summary : IssueSummary
  fileAnalyses : List FileAnalysis
  securityScore : Nat
  overallScore : Nat
  recommendations : List String
  metadata : Metadata
  status : OutcomeStatus
  error : Option ErrorDetails
  reviewTurn : Option Nat
  deriving DecidableEq, Repr

/-- A weakness and how often it occurs. -/
structure CweCount where
  cwe : String
  count : Nat
  deriving DecidableEq, Repr

namespace CweCount

/-- Higher counts come first; of equal counts the lesser identifier. -/
def ranksBefore (a b : CweCount) : Bool :=
  b.count < a.count || (a.count == b.count && a.cwe ≤ b.cwe)

def toJson (c : CweCount) : Json.Value := .ofPairs [
  ("cwe", .string c.cwe),
  ("count", .ofNat c.count)]

end CweCount

/-- The counts that matter for security. -/
structure SecuritySummary where
  totalSecurityIssues : Nat
  totalScannerFindings : Nat
  criticalSecurityIssues : Nat
  highSecurityIssues : Nat
  securityScore : Nat
  riskScore : Nat
  topCwes : List CweCount
  deriving DecidableEq, Repr

namespace Outcome

/-- A completed outcome of these issues and analyses; the rest is filled in later. -/
def ofIssues (issues : List Issue) (analyses : List FileAnalysis) : Outcome where
  issues := issues
  summary := .ofIssues issues
  fileAnalyses := analyses
  securityScore := 0
  overallScore := 0
  recommendations := []
  metadata := .empty
  status := .completed
  error := none
  reviewTurn := none

/-- The outcome of a run that broke off. -/
def failed (error : ErrorDetails) : Outcome :=
  { ofIssues [] [] with status := .failed, error := some error }

/-- All findings, in file then finding order. -/
def findings (o : Outcome) : List Finding := o.fileAnalyses.flatMap (·.findings)

/-- Number of findings. -/
def totalFindings (o : Outcome) : Nat :=
  o.fileAnalyses.foldr (fun a n => a.findings.length + n) 0

def isDegraded (o : Outcome) : Bool := o.error.isSome

/-- Weighted load of the issues, at most one hundred. -/
def riskScore (o : Outcome) : Nat :=
  let c := o.summary.bySeverity
  min 100 (c.critical * 10 + c.high * 7 + c.medium * 4 + c.low)

/-- The weaknesses named by issues and findings, with repetitions. -/
def cweIds (o : Outcome) : List String :=
  o.issues.filterMap (·.cwe) ++ o.findings.filterMap (·.cwe)

/-- The most weaknesses listed. -/
def topCount : Nat := 5

/-- The most frequent weaknesses. -/
def topCwes (o : Outcome) : List CweCount :=
  let ids := o.cweIds
  ((ids.eraseDups.map fun id => CweCount.mk id (ids.count id)).mergeSort
    CweCount.ranksBefore).take topCount

def securitySummary (o : Outcome) : SecuritySummary :=
  let security := o.issues.filter fun i => i.issueType = .security
  { totalSecurityIssues := security.length
    totalScannerFindings := o.totalFindings
    criticalSecurityIssues := security.countP (·.severity = .critical)
    highSecurityIssues := security.countP (·.severity = .high)
    securityScore := o.securityScore
    riskScore := o.riskScore
    topCwes := o.topCwes }

/-- A critical issue, or a security score below seventy. -/
def isHighRisk (o : Outcome) : Bool := 0 < o.summary.bySeverity.critical || o.securityScore < 70

def toJson (o : Outcome) : Json.Value := .ofPairs [
  ("issues", .array (o.issues.map Issue.toJson)),
  ("summary", o.summary.toJson),
  ("fileAnalyses", .array (o.fileAnalyses.map FileAnalysis.toJson)),
  ("securityScore", .ofNat o.securityScore),
  ("overallScore", .ofNat o.overallScore),
  ("recommendations", .array (o.recommendations.map .string)),
  ("metadata", o.metadata.toJson),
  ("status", .string o.status.name),
  ("error", .ofOption (o.error.map ErrorDetails.toJson)),
  ("reviewTurn", .ofOption (o.reviewTurn.map .ofNat))]

theorem totalFindings_eq (o : Outcome) : o.totalFindings = o.findings.length := by
  rw [totalFindings, findings]
  induction o.fileAnalyses with
  | nil => rfl
  | cons a analyses ih => rw [List.foldr_cons, List.flatMap_cons, List.length_append, ih]

end Outcome

namespace SecuritySummary

def toJson (s : SecuritySummary) : Json.Value := .ofPairs [
  ("total_security_issues", .ofNat s.totalSecurityIssues),
  ("total_scanner_findings", .ofNat s.totalScannerFindings),
  ("critical_security_issues", .ofNat s.criticalSecurityIssues),
  ("high_security_issues", .ofNat s.highSecurityIssues),
  ("security_score", .ofNat s.securityScore),
  ("risk_score", .ofNat s.riskScore),
  ("top_cwes", .array (s.topCwes.map CweCount.toJson))]

end SecuritySummary

end ChangeReview
