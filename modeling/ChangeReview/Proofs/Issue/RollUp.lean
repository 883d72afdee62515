import Mathlib.Algebra.BigOperators.Group.List.Basic
import Mathlib.Algebra.Ring.Nat
import Mathlib.Data.List.Nodup
import ChangeReview.Proofs.Issue.Counting
import ChangeReview.Proofs.Run.Ending

/-!
# Summaries of parts and of the whole

A summary holds the number of issues of each severity, of each type and of each origin, and is
settled by these numbers. So the summary of two lists together is the sum of their summaries, and
the order of issues does not matter. What an outcome says about security by filtering its issues
agrees with what its summary says by counting them.
-/

namespace ChangeReview

/-! ## Sums of counts -/

namespace SeverityCounts

instance : Add SeverityCounts where
  add a b := ⟨a.critical + b.critical, a.high + b.high, a.medium + b.medium, a.low + b.low⟩

theorem get_add (a b : SeverityCounts) (s : Severity) : (a + b).get s = a.get s + b.get s := by
  cases s <;> rfl

theorem ext_get {a b : SeverityCounts} (h : ∀ s, a.get s = b.get s) : a = b := by
  cases a
  cases b
  rw [mk.injEq]
  exact ⟨h .critical, h .high, h .medium, h .low⟩

end SeverityCounts

namespace TypeCounts

instance : Add TypeCounts where
  add a b := ⟨a.security + b.security, a.logic + b.logic, a.readability + b.readability,
    a.performance + b.performance, a.documentation + b.documentation, a.testing + b.testing,
    a.improvement + b.improvement⟩

theorem get_add (a b : TypeCounts) (t : IssueType) : (a + b).get t = a.get t + b.get t := by
  cases t <;> rfl

theorem ext_get {a b : TypeCounts} (h : ∀ t, a.get t = b.get t) : a = b := by
  cases a
  cases b
  rw [mk.injEq]
  exact ⟨h .security, h .logic, h .readability, h .performance, h .documentation, h .testing,
    h .improvement⟩

end TypeCounts

namespace OriginCounts

instance : Add OriginCounts where
  add a b := ⟨a.model + b.model, a.scanner + b.scanner, a.hybrid + b.hybrid⟩

theorem get_add (a b : OriginCounts) (o : IssueOrigin) : (a + b).get o = a.get o + b.get o := by
  cases o <;> rfl

theorem ext_get {a b : OriginCounts} (h : ∀ o, a.get o = b.get o) : a = b := by
  cases a
  cases b
  rw [mk.injEq]
  exact ⟨h .model, h .scanner, h .hybrid⟩

end OriginCounts

/-- When each value stands in a list once, the items of each value are all items together. -/
theorem sum_countP_eq_length {α κ : Type} [DecidableEq κ] {values : List κ} (hnodup : values.Nodup)
    (hall : ∀ v, v ∈ values) (key : α → κ) (items : List α) :
    (values.map fun v ↦ items.countP (key · = v)).sum = items.length := by
  induction items with
  | nil => simp
  | cons a items ih =>
    have hone : (values.map fun v ↦ if key a = v then 1 else 0).sum = 1 := by
      rw [List.sum_map_eq_nsmul_single (key a) _ fun v hv _ ↦ if_neg (Ne.symm hv), if_pos rfl,
        List.count_eq_one_of_mem hnodup (hall (key a))]
      rfl
    simp only [List.countP_cons, decide_eq_true_eq, List.sum_map_add, ih, hone, List.length_cons]

namespace IssueSummary

/-- The counts of two lists of issues taken together. -/
instance : Add IssueSummary where
  add a b := ⟨a.total + b.total, a.bySeverity + b.bySeverity, a.byType + b.byType,
    a.byOrigin + b.byOrigin⟩

/-- A summary holds the number of all issues and of those of each severity, type and origin. -/
structure Counts (s : IssueSummary) (issues : List Issue) : Prop where
  total : s.total = issues.length
  bySeverity : ∀ v, s.bySeverity.get v = issues.countP (·.severity = v)
  byType : ∀ t, s.byType.get t = issues.countP (·.issueType = t)
  byOrigin : ∀ o, s.byOrigin.get o = issues.countP (·.origin = o)

theorem counts_ofIssues (issues : List Issue) : (ofIssues issues).Counts issues where
  total := total_ofIssues issues
  bySeverity := bySeverity_ofIssues issues
  byType := byType_ofIssues issues
  byOrigin := byOrigin_ofIssues issues

namespace Counts

variable {s s' : IssueSummary} {issues issues' : List Issue}

/-- The counts of issues settle the summary. -/
theorem unique (h : s.Counts issues) (h' : s'.Counts issues) : s = s' := by
  cases s
  cases s'
  rw [mk.injEq]
  refine ⟨h.total.trans h'.total.symm, ?severity, ?type, ?origin⟩
  case severity =>
    exact SeverityCounts.ext_get fun v ↦ (h.bySeverity v).trans (h'.bySeverity v).symm
  case type => exact TypeCounts.ext_get fun t ↦ (h.byType t).trans (h'.byType t).symm
  case origin => exact OriginCounts.ext_get fun o ↦ (h.byOrigin o).trans (h'.byOrigin o).symm

theorem add (h : s.Counts issues) (h' : s'.Counts issues') : (s + s').Counts (issues ++ issues') where
  total := by
    rw [List.length_append, ← h.total, ← h'.total]
    rfl
  bySeverity v := by
    rw [List.countP_append, ← h.bySeverity, ← h'.bySeverity]
    exact SeverityCounts.get_add _ _ v
  byType t := by
    rw [List.countP_append, ← h.byType, ← h'.byType]
    exact TypeCounts.get_add _ _ t
  byOrigin o := by
    rw [List.countP_append, ← h.byOrigin, ← h'.byOrigin]
    exact OriginCounts.get_add _ _ o

theorem of_perm (h : s.Counts issues) (hperm : issues.Perm issues') : s.Counts issues' where
  total := h.total.trans hperm.length_eq
  bySeverity v := (h.bySeverity v).trans (hperm.countP_eq _)
  byType t := (h.byType t).trans (hperm.countP_eq _)
  byOrigin o := (h.byOrigin o).trans (hperm.countP_eq _)

/-- The counts along each dimension are all issues together. -/
theorem sums (h : s.Counts issues) :
    (Severity.all.map s.bySeverity.get).sum = s.total ∧
      (IssueType.all.map s.byType.get).sum = s.total ∧
      (IssueOrigin.all.map s.byOrigin.get).sum = s.total := by
  rw [funext h.bySeverity, funext h.byType, funext h.byOrigin, h.total]
  exact ⟨sum_countP_eq_length (by decide) Severity.mem_all _ issues,
    sum_countP_eq_length (by decide) IssueType.mem_all _ issues,
    sum_countP_eq_length (by decide) IssueOrigin.mem_all _ issues⟩

end Counts

theorem ofIssues_append (a b : List Issue) : ofIssues (a ++ b) = ofIssues a + ofIssues b :=
  (counts_ofIssues (a ++ b)).unique ((counts_ofIssues a).add (counts_ofIssues b))

theorem ofIssues_perm {a b : List Issue} (h : a.Perm b) : ofIssues a = ofIssues b :=
  ((counts_ofIssues a).of_perm h).unique (counts_ofIssues b)

end IssueSummary

/-! ## Two ways of counting -/

/-- The counts that matter for security, taken by filtering, agree with those of the summary and
with the findings of the files. -/
structure SecuritySummary.Agrees (s : SecuritySummary) (summary : IssueSummary)
    (files : List FileAnalysis) : Prop where
  totalSecurityIssues : s.totalSecurityIssues = summary.byType.security
  critical_le : s.criticalSecurityIssues ≤ summary.bySeverity.critical
  high_le : s.highSecurityIssues ≤ summary.bySeverity.high
  severe_le : s.criticalSecurityIssues + s.highSecurityIssues ≤ s.totalSecurityIssues
  totalScannerFindings :
    s.totalScannerFindings = (files.map fun f ↦ (Severity.all.map f.countAt).sum).sum

namespace Outcome

/-- The findings of a file are those of the four severities. -/
theorem totalFindings_eq_sum_countAt (o : Outcome) :
    o.totalFindings = (o.fileAnalyses.map fun f ↦ (Severity.all.map f.countAt).sum).sum := by
  have hfile (f : FileAnalysis) : (Severity.all.map f.countAt).sum = f.findings.length :=
    sum_countP_eq_length (by decide) Severity.mem_all Finding.severity f.findings
  rw [totalFindings_eq, findings, List.length_flatMap]
  simp only [hfile]

/-- Issues of a severity among the security issues are issues of that severity. -/
theorem countP_filter_le (issues : List Issue) (p : Issue → Bool) (v : Severity) :
    (issues.filter p).countP (·.severity = v) ≤ (IssueSummary.ofIssues issues).bySeverity.get v := by
  rw [IssueSummary.bySeverity_ofIssues]
  exact List.filter_sublist.countP_le

theorem securitySummary_agrees {o : Outcome} (h : o.summary = .ofIssues o.issues) :
    o.securitySummary.Agrees o.summary o.fileAnalyses where
  totalSecurityIssues := by
    rw [h]
    exact List.countP_eq_length_filter.symm.trans
      (IssueSummary.byType_ofIssues o.issues .security).symm
  critical_le := by
    rw [h]
    exact countP_filter_le o.issues _ .critical
  high_le := by
    rw [h]
    exact countP_filter_le o.issues _ .high
  severe_le := by
    have hparts := sum_countP_eq_length (by decide) Severity.mem_all Issue.severity
      (o.issues.filter fun i ↦ i.issueType = .security)
    simp only [Severity.all, List.map_cons, List.map_nil, List.sum_cons, List.sum_nil] at hparts
    simp only [securitySummary]
    omega
  totalScannerFindings := o.totalFindings_eq_sum_countAt

/-- A summary holds the number of all issues and of those with each severity, type and origin, and
the numbers along each of these dimensions add up to all. The summary of two lists together is the
sum of their summaries, and a summary does not depend on the order of issues. An outcome that
carries the summary of its issues, as that of every run does, reports as many security issues as the
summary has; the critical and the high ones among them are no more than all critical and all high
issues, and together no more than all security issues; and its findings are those of the four
severities in its files. -/
theorem summaries_agree :
    (∀ issues, let s := IssueSummary.ofIssues issues
      s.Counts issues ∧ (Severity.all.map s.bySeverity.get).sum = s.total ∧
        (IssueType.all.map s.byType.get).sum = s.total ∧
        (IssueOrigin.all.map s.byOrigin.get).sum = s.total) ∧
    (∀ a b, IssueSummary.ofIssues (a ++ b) = .ofIssues a + .ofIssues b) ∧
    (∀ a b : List Issue, a.Perm b → IssueSummary.ofIssues a = .ofIssues b) ∧
    (∀ o : Outcome, o.summary = .ofIssues o.issues →
      o.securitySummary.Agrees o.summary o.fileAnalyses) ∧
    ∀ threads scanner config model request context,
      let o := (Run.analyze threads scanner config model request context).outcome
      o.summary = .ofIssues o.issues ∧ o.securitySummary.Agrees o.summary o.fileAnalyses := by
  refine ⟨?counts, IssueSummary.ofIssues_append, fun _ _ ↦ IssueSummary.ofIssues_perm,
    fun _ ↦ securitySummary_agrees, ?runs⟩
  case counts =>
    intro issues s
    have hcounts : s.Counts issues := IssueSummary.counts_ofIssues issues
    exact ⟨hcounts, hcounts.sums⟩
  case runs =>
    intro threads scanner config model request context o
    have hsummary : o.summary = .ofIssues o.issues :=
      Run.summary_analyze threads scanner config model request context
    exact ⟨hsummary, securitySummary_agrees hsummary⟩

/-- Of four issues, two concern security, one of them critical and one high; a further high issue
does not concern security. -/
theorem summaries_agree_other_high :
    let issue (type : IssueType) (severity : Severity) (origin : IssueOrigin) : Issue :=
      ⟨type, "t", "", "a.js", "", severity, none, .high, .high, origin⟩
    let issues := [issue .security .critical .scanner, issue .logic .high .model,
      issue .security .high .model, issue .testing .low .hybrid]
    let finding (severity : Severity) : Finding :=
      ⟨.codeInjection, "eval", .unknown, severity, .high, .high, none, "p"⟩
    let o := ofIssues issues [⟨"a.js", [finding .critical, finding .low], 0, .zero, true⟩,
      ⟨"b.js", [finding .low], 0, .zero, true⟩]
    issues.Perm issues.reverse ∧ IssueSummary.ofIssues issues = .ofIssues issues.reverse ∧
      o.summary = .ofIssues o.issues ∧ o.securitySummary.Agrees o.summary o.fileAnalyses ∧
      o.summary.byType.security = 2 ∧ o.summary.bySeverity.high = 2 ∧
      o.securitySummary.highSecurityIssues = 1 ∧ o.securitySummary.totalScannerFindings = 3 := by
  intro issue issues finding o
  obtain ⟨-, -, horder, hagree, -⟩ := summaries_agree
  have hperm : issues.Perm issues.reverse := (List.reverse_perm issues).symm
  exact ⟨hperm, horder issues issues.reverse hperm, rfl, hagree o rfl, by decide, by decide,
    by decide, by decide⟩

end Outcome

end ChangeReview
