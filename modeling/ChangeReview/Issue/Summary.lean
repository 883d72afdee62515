import ChangeReview.Issue

/-!
# Counting issues

The roll-up of a list of issues by severity, by type and by origin. A summary is built from the
issues it describes, one issue after the other.
-/

namespace ChangeReview

structure SeverityCounts where
  critical : Nat
  high : Nat
  medium : Nat
  low : Nat
  deriving DecidableEq, Repr

structure TypeCounts where
  security : Nat
  logic : Nat
  readability : Nat
  performance : Nat
  documentation : Nat
  testing : Nat
  improvement : Nat
  deriving DecidableEq, Repr

structure OriginCounts where
  model : Nat
  scanner : Nat
  hybrid : Nat
  deriving DecidableEq, Repr

namespace SeverityCounts

def zero : SeverityCounts := ⟨0, 0, 0, 0⟩

/-- The count of a severity. -/
def get (c : SeverityCounts) : Severity → Nat
  | .critical => c.critical
  | .high => c.high
  | .medium => c.medium
  | .low => c.low

/-- One more of a severity. -/
def bump (c : SeverityCounts) : Severity → SeverityCounts
  | .critical => { c with critical := c.critical + 1 }
  | .high => { c with high := c.high + 1 }
  | .medium => { c with medium := c.medium + 1 }
  | .low => { c with low := c.low + 1 }

theorem get_bump (c : SeverityCounts) (s t : Severity) :
    (c.bump s).get t = c.get t + if s = t then 1 else 0 := by
  cases s <;> cases t <;> rfl

end SeverityCounts

namespace TypeCounts

def zero : TypeCounts := ⟨0, 0, 0, 0, 0, 0, 0⟩

/-- The count of a type. -/
def get (c : TypeCounts) : IssueType → Nat
  | .security => c.security
  | .logic => c.logic
  | .readability => c.readability
  | .performance => c.performance
  | .documentation => c.documentation
  | .testing => c.testing
  | .improvement => c.improvement

/-- One more of a type. -/
def bump (c : TypeCounts) : IssueType → TypeCounts
  | .security => { c with security := c.security + 1 }
  | .logic => { c with logic := c.logic + 1 }
  | .readability => { c with readability := c.readability + 1 }
  | .performance => { c with performance := c.performance + 1 }
  | .documentation => { c with documentation := c.documentation + 1 }
  | .testing => { c with testing := c.testing + 1 }
  | .improvement => { c with improvement := c.improvement + 1 }

theorem get_bump (c : TypeCounts) (s t : IssueType) :
    (c.bump s).get t = c.get t + if s = t then 1 else 0 := by
  cases s <;> cases t <;> rfl

end TypeCounts

namespace OriginCounts

def zero : OriginCounts := ⟨0, 0, 0⟩

/-- The count of an origin. -/
def get (c : OriginCounts) : IssueOrigin → Nat
  | .model => c.model
  | .scanner => c.scanner
  | .hybrid => c.hybrid

/-- One more of an origin. -/
def bump (c : OriginCounts) : IssueOrigin → OriginCounts
  | .model => { c with model := c.model + 1 }
  | .scanner => { c with scanner := c.scanner + 1 }
  | .hybrid => { c with hybrid := c.hybrid + 1 }

theorem get_bump (c : OriginCounts) (s t : IssueOrigin) :
    (c.bump s).get t = c.get t + if s = t then 1 else 0 := by
  cases s <;> cases t <;> rfl

end OriginCounts

/-- Roll-up of a list of issues. -/
structure IssueSummary where
  total : Nat
  bySeverity : SeverityCounts
  byType : TypeCounts
  byOrigin : OriginCounts
  deriving DecidableEq, Repr

namespace IssueSummary

def zero : IssueSummary := ⟨0, .zero, .zero, .zero⟩

/-- Count one more issue. -/
def add (s : IssueSummary) (i : Issue) : IssueSummary where
  total := s.total + 1
  bySeverity := s.bySeverity.bump i.severity
  byType := s.byType.bump i.issueType
  byOrigin := s.byOrigin.bump i.origin

/-- The summary of a list of issues. -/
def ofIssues (issues : List Issue) : IssueSummary := issues.foldl add zero

def toJson (s : IssueSummary) : Json.Value := .ofPairs [
  ("total", .ofNat s.total),
  ("bySeverity", .ofPairs (Severity.all.map fun v => (v.name, .ofNat (s.bySeverity.get v)))),
  ("byType", .ofPairs (IssueType.all.map fun t => (t.name, .ofNat (s.byType.get t)))),
  ("byOrigin", .ofPairs (IssueOrigin.all.map fun o => (o.name, .ofNat (s.byOrigin.get o))))]

end IssueSummary

end ChangeReview
