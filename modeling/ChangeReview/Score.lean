import ChangeReview.Finding
import ChangeReview.Issue

/-!
# Scores

Scores start at one hundred, lose a penalty for every item and stay within `0` and `100`. A
scanner finding is charged on top of the issue it was turned into.
-/

namespace ChangeReview.Score

/-- Aggregate complexity below this earns the bonus, unless configured otherwise. -/
def defaultThreshold : Nat := 10

/-- The bonus for low complexity. -/
def lowComplexityBonus : Int := 5

/-- What a security issue costs the security score. -/
def securityIssuePenalty : Severity → Int
  | .critical => 25
  | .high => 15
  | .medium => 8
  | .low => 3

/-- What a finding costs the security score. -/
def securityFindingPenalty : Severity → Int
  | .critical => 20
  | .high => 12
  | .medium => 6
  | .low => 2

/-- What an issue costs the overall score. -/
def issuePenalty : Severity → Int
  | .critical => 15
  | .high => 10
  | .medium => 5
  | .low => 2

/-- What a finding costs the overall score. -/
def findingSurcharge : Severity → Int
  | .critical => 15
  | .high => 10
  | .medium => 0
  | .low => 0

/-- Bring a number into the range of scores. -/
def clamp (raw : Int) : Nat := (min 100 (max 0 raw)).toNat

/-- Sum of a penalty over a list. -/
def total {α : Type} (penalty : α → Int) (items : List α) : Int :=
  items.foldr (fun a n => penalty a + n) 0

/-- The security score: security issues and all findings count. -/
def security (issues : List Issue) (findings : List Finding) : Nat :=
  clamp (100 -
    total (fun i => securityIssuePenalty i.severity)
      (issues.filter fun i => i.issueType = .security) -
    total (fun f => securityFindingPenalty f.severity) findings)

/-- The overall score: all issues count, findings from high on count again, and complexity below
the threshold earns the bonus. -/
def overall (issues : List Issue) (findings : List Finding) (complexity threshold : Nat) : Nat :=
  clamp (100 -
    total (fun i => issuePenalty i.severity) issues -
    total (fun f => findingSurcharge f.severity) findings +
    if complexity < threshold then lowComplexityBonus else 0)

theorem clamp_le (raw : Int) : clamp raw ≤ 100 := by
  unfold clamp
  omega

theorem clamp_mono {a b : Int} (h : a ≤ b) : clamp a ≤ clamp b := by
  unfold clamp
  omega

end ChangeReview.Score
