import ChangeReview.Outcome

/-!
# Summaries as counts

Each count of a summary is the number of issues with a severity, a type or an origin. So the risk
score of an outcome that carries the summary of its issues is a weighted number of issues.
-/

namespace ChangeReview

namespace IssueSummary

/-- A number that issues with a property raise by one, and no others, counts those issues. -/
theorem foldl_add_eq_countP (number : IssueSummary → Nat) {p : Issue → Prop} [DecidablePred p]
    (hadd : ∀ s i, number (s.add i) = number s + if p i then 1 else 0) (s : IssueSummary)
    (issues : List Issue) : number (issues.foldl add s) = number s + issues.countP p := by
  induction issues generalizing s with
  | nil => rfl
  | cons i issues ih =>
    rw [List.foldl_cons, ih, hadd, List.countP_cons]
    simp only [decide_eq_true_eq]
    omega

/-- A number that is zero without issues and that issues with a property raise. -/
theorem ofIssues_eq_countP (number : IssueSummary → Nat) {p : Issue → Prop} [DecidablePred p]
    (hzero : number zero = 0) (hadd : ∀ s i, number (s.add i) = number s + if p i then 1 else 0)
    (issues : List Issue) : number (ofIssues issues) = issues.countP p := by
  rw [ofIssues, foldl_add_eq_countP number hadd, hzero, Nat.zero_add]

theorem total_ofIssues (issues : List Issue) : (ofIssues issues).total = issues.length := by
  rw [ofIssues_eq_countP total (p := fun _ ↦ True) rfl fun _ _ ↦ rfl]
  simp

/-- A summary counts the issues of each severity. -/
theorem bySeverity_ofIssues (issues : List Issue) (v : Severity) :
    (ofIssues issues).bySeverity.get v = issues.countP (·.severity = v) :=
  ofIssues_eq_countP (·.bySeverity.get v) (by cases v <;> rfl)
    (fun s i ↦ s.bySeverity.get_bump i.severity v) issues

/-- A summary counts the issues of each type. -/
theorem byType_ofIssues (issues : List Issue) (t : IssueType) :
    (ofIssues issues).byType.get t = issues.countP (·.issueType = t) :=
  ofIssues_eq_countP (·.byType.get t) (by cases t <;> rfl)
    (fun s i ↦ s.byType.get_bump i.issueType t) issues

/-- A summary counts the issues of each origin. -/
theorem byOrigin_ofIssues (issues : List Issue) (o : IssueOrigin) :
    (ofIssues issues).byOrigin.get o = issues.countP (·.origin = o) :=
  ofIssues_eq_countP (·.byOrigin.get o) (by cases o <;> rfl)
    (fun s i ↦ s.byOrigin.get_bump i.origin o) issues

end IssueSummary

namespace Outcome

/-- The risk of an outcome by the severities of its issues. -/
theorem riskScore_of_summary {o : Outcome} (h : o.summary = .ofIssues o.issues) :
    o.riskScore = min 100 (10 * o.issues.countP (·.severity = .critical) +
      7 * o.issues.countP (·.severity = .high) + 4 * o.issues.countP (·.severity = .medium) +
      o.issues.countP (·.severity = .low)) := by
  have hcritical := IssueSummary.bySeverity_ofIssues o.issues .critical
  have hhigh := IssueSummary.bySeverity_ofIssues o.issues .high
  have hmedium := IssueSummary.bySeverity_ofIssues o.issues .medium
  have hlow := IssueSummary.bySeverity_ofIssues o.issues .low
  simp only [SeverityCounts.get] at hcritical hhigh hmedium hlow
  simp only [riskScore, h, hcritical, hhigh, hmedium, hlow, Nat.mul_comm]

/-- Further issues never lower the risk. -/
theorem riskScore_le_of_append {o o' : Outcome} (h : o.summary = .ofIssues o.issues)
    (h' : o'.summary = .ofIssues o'.issues) {own : List Issue}
    (happend : o'.issues = own ++ o.issues) : o.riskScore ≤ o'.riskScore := by
  rw [riskScore_of_summary h, riskScore_of_summary h', happend]
  simp only [List.countP_append]
  omega

/-- A critical issue makes the risk high. -/
theorem isHighRisk_of_critical {o : Outcome} (h : o.summary = .ofIssues o.issues) {i : Issue}
    (hi : i ∈ o.issues) (hcritical : i.severity = .critical) : o.isHighRisk := by
  have hpos : 0 < o.issues.countP (·.severity = .critical) :=
    List.countP_pos_iff.mpr ⟨i, hi, decide_eq_true hcritical⟩
  rw [← IssueSummary.bySeverity_ofIssues, ← h] at hpos
  simp only [isHighRisk, Bool.or_eq_true, decide_eq_true_eq]
  exact .inl hpos

end Outcome

end ChangeReview
