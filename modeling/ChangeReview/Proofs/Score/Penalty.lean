import ChangeReview.Score

/-!
# Sums of penalties

A penalty that depends on the severity alone adds up to one product per severity. Further items
only raise a sum of penalties, so they never raise a score.
-/

namespace ChangeReview.Score

variable {α β : Type}

theorem total_cons (penalty : α → Int) (a : α) (items : List α) :
    total penalty (a :: items) = penalty a + total penalty items := rfl

theorem total_append (penalty : α → Int) (a b : List α) :
    total penalty (a ++ b) = total penalty a + total penalty b := by
  induction a with
  | nil => exact (Int.zero_add _).symm
  | cons x a ih => rw [List.cons_append, total_cons, total_cons, ih, Int.add_assoc]

theorem total_nonneg {penalty : α → Int} (h : ∀ a, 0 ≤ penalty a) (items : List α) :
    0 ≤ total penalty items := by
  induction items with
  | nil => exact Int.le_refl 0
  | cons a items ih =>
    rw [total_cons]
    exact Int.add_nonneg (h a) ih

/-- A sum over items that agree with other items wherever the penalty looks. -/
theorem total_of_map_eq {p : α → Int} {q : β → Int} {a : List α} {b : List β}
    (h : a.map p = b.map q) : total p a = total q b := by
  have hfold := congrArg (List.foldr (· + ·) 0) h
  rw [List.foldr_map, List.foldr_map] at hfold
  exact hfold

/-- Penalties by severity add up to the counts of the severities, weighted. -/
theorem total_severity (penalty : Severity → Int) (severity : α → Severity) (items : List α) :
    total (fun a ↦ penalty (severity a)) items =
      penalty .critical * items.countP (severity · = .critical) +
      penalty .high * items.countP (severity · = .high) +
      penalty .medium * items.countP (severity · = .medium) +
      penalty .low * items.countP (severity · = .low) := by
  induction items with
  | nil => simp [total]
  | cons a items ih =>
    rw [total_cons, ih]
    cases h : severity a <;> simp [h, Int.mul_add] <;> omega

/-- A clamped number, as an integer. -/
theorem cast_clamp (raw : Int) : (clamp raw : Int) = min 100 (max 0 raw) := by
  unfold clamp
  omega

/-! ## Issues that report the findings -/

section

variable {issues : List Issue} {findings : List Finding}

/-- Issues as severe as the findings cost what the findings would. -/
theorem total_issues_of_severity_eq (h : issues.map (·.severity) = findings.map (·.severity))
    (penalty : Severity → Int) :
    total (fun i : Issue ↦ penalty i.severity) issues =
      total (fun f : Finding ↦ penalty f.severity) findings := by
  have hpenalty := congrArg (List.map penalty) h
  rw [List.map_map, List.map_map] at hpenalty
  exact total_of_map_eq hpenalty

/-- When security issues report the findings, both penalties of the security score add up. -/
theorem security_of_severity_eq (h : issues.map (·.severity) = findings.map (·.severity))
    (htype : ∀ i ∈ issues, i.issueType = .security) :
    (security issues findings : Int) =
      max 0 (100 - 45 * findings.countP (·.severity = .critical) -
        27 * findings.countP (·.severity = .high) - 14 * findings.countP (·.severity = .medium) -
        5 * findings.countP (·.severity = .low)) := by
  have hall : issues.filter (·.issueType = .security) = issues :=
    List.filter_eq_self.mpr fun i hi ↦ decide_eq_true (htype i hi)
  rw [security, cast_clamp, hall, total_issues_of_severity_eq h securityIssuePenalty,
    total_severity securityIssuePenalty, total_severity securityFindingPenalty]
  simp only [securityIssuePenalty, securityFindingPenalty]
  omega

/-- When issues report the findings, both penalties of the overall score add up. -/
theorem overall_of_severity_eq (h : issues.map (·.severity) = findings.map (·.severity))
    (complexity threshold : Nat) :
    (overall issues findings complexity threshold : Int) =
      min 100 (max 0 (100 - 30 * findings.countP (·.severity = .critical) -
        20 * findings.countP (·.severity = .high) - 5 * findings.countP (·.severity = .medium) -
        2 * findings.countP (·.severity = .low) +
        (if complexity < threshold then 5 else 0 : Int))) := by
  rw [overall, cast_clamp, total_issues_of_severity_eq h issuePenalty,
    total_severity issuePenalty, total_severity findingSurcharge]
  simp only [issuePenalty, findingSurcharge, lowComplexityBonus]
  omega

end

/-! ## Further issues -/

theorem issuePenalty_nonneg (s : Severity) : 0 ≤ issuePenalty s := by
  cases s <;> decide

/-- Further issues never raise the overall score. -/
theorem overall_append_le (own issues : List Issue) (findings : List Finding)
    (complexity threshold : Nat) :
    overall (own ++ issues) findings complexity threshold ≤
      overall issues findings complexity threshold := by
  apply clamp_mono
  have hown := total_nonneg (fun i : Issue ↦ issuePenalty_nonneg i.severity) own
  rw [total_append]
  omega

end ChangeReview.Score
