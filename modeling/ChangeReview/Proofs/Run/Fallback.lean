import ChangeReview.Proofs.Issue.Counting
import ChangeReview.Proofs.Issue.Weaknesses
import ChangeReview.Proofs.Run.Ending
import ChangeReview.Proofs.Score.Advice
import ChangeReview.Proofs.Score.Penalty

/-!
# Outcomes without a usable reply

When the model gives no reply, or one that is not decoded, the outcome is made from the findings
alone. Its issues report them one by one, so every score, every weakness count and the advice can be
told from the findings.
-/

namespace ChangeReview

namespace Run

open Reply Scan

/-- An answer that holds no decodable reply leaves the model path. -/
theorem payloadOf_eq_error {answer : Answer}
    (h : ∀ raw, answer = .reply raw → ∃ e, decode raw = .error e) :
    ∃ e, payloadOf answer = .error e := by
  cases answer with
  | error e => exact ⟨_, rfl⟩
  | breakdown b => exact ⟨_, rfl⟩
  | reply raw =>
    obtain ⟨e, he⟩ := h raw rfl
    exact ⟨.decode e, by simp only [payloadOf, Answer.reply?, he]⟩

/-! ## Outcomes made from findings -/

/-- An outcome that is made from the findings of its file analyses alone. -/
structure FromFindings (threshold : Nat) (o : Outcome) : Prop where
  issues : o.issues = scannerIssues o.fileAnalyses
  summary : o.summary = .ofIssues o.issues
  securityScore : o.securityScore = Score.security o.issues o.findings
  overallScore : o.overallScore =
    Score.overall o.issues o.findings (aggregateComplexity o.fileAnalyses) threshold
  recommendations : o.recommendations = Recommendation.ofFindings o.findings

/-- The fallback is made from findings, whatever its error. -/
theorem fromFindings_finish (config : ReviewConfig) (request : Request)
    (scanned : List SourceFile) (model : String) (e : ModelPathError)
    (analyses : List FileAnalysis) :
    FromFindings config.scoring.lowComplexityThreshold
      (finish config request scanned model (fallback e analyses)) where
  issues := rfl
  summary := rfl
  securityScore := rfl
  overallScore := rfl
  recommendations := rfl

namespace FromFindings

variable {threshold : Nat} {o : Outcome} (h : FromFindings threshold o)
include h

theorem reports :
    List.Forall₂ (fun source i ↦ Reports source.1 source.2 i) (located o.fileAnalyses)
      o.issues := by
  rw [h.issues]
  exact reports_scannerIssues o.fileAnalyses

theorem map_severity : o.issues.map (·.severity) = o.findings.map (·.severity) := by
  rw [h.issues]
  exact map_severity_scannerIssues o.fileAnalyses

theorem countP_severity (s : Severity) :
    o.issues.countP (·.severity = s) = o.findings.countP (·.severity = s) := by
  rw [h.issues]
  exact countP_severity_scannerIssues o.fileAnalyses s

/-- A finding costs its own security penalty and that of the issue that reports it. -/
theorem securityScore_eq :
    (o.securityScore : Int) =
      max 0 (100 - 45 * o.findings.countP (·.severity = .critical) -
        27 * o.findings.countP (·.severity = .high) -
        14 * o.findings.countP (·.severity = .medium) -
        5 * o.findings.countP (·.severity = .low)) := by
  have htype : ∀ i ∈ o.issues, i.issueType = .security := by
    rw [h.issues]
    intro i hi
    exact issueType_scannerIssues hi
  rw [h.securityScore]
  exact Score.security_of_severity_eq h.map_severity htype

theorem riskScore_eq :
    o.riskScore = min 100 (10 * o.findings.countP (·.severity = .critical) +
      7 * o.findings.countP (·.severity = .high) + 4 * o.findings.countP (·.severity = .medium) +
      o.findings.countP (·.severity = .low)) := by
  rw [Outcome.riskScore_of_summary h.summary, h.countP_severity, h.countP_severity,
    h.countP_severity, h.countP_severity]

/-- A weakness is named by every finding that has it and by the issue that reports the finding. -/
theorem timesNamed_eq (id : String) :
    o.timesNamed id = 2 * o.findings.countP (·.cwe = some id) := by
  have hcwe : o.issues.filterMap (·.cwe) = o.findings.filterMap (·.cwe) := by
    rw [h.issues]
    exact filterMap_cwe_scannerIssues o.fileAnalyses
  rw [← Outcome.count_cweIds, Outcome.cweIds, hcwe, List.count_append, Outcome.count_filterMap_cwe]
  omega

end FromFindings

section

variable (threads : Threads) (scanner : Scanner) (config : ReviewConfig) (model : Model)
  (request : Request) (context : PhaseContext) {reported : String}

/-- Without a usable reply, the outcome is the fallback with scores and metadata. -/
theorem exists_outcome_fallback (hname : model.name = .ok reported)
    (hreply : ∀ raw, answerOf threads scanner config model request = .reply raw →
      ∃ e, decode raw = .error e) :
    ∃ e, (analyze threads scanner config model request context).outcome =
      finish config request (eligible config.scanner request.files)
        (modelName config.model reported)
        (fallback e (analysesOf threads scanner config request)) := by
  obtain ⟨e, he⟩ := payloadOf_eq_error hreply
  refine ⟨e, ?_⟩
  rw [outcome_analyze threads scanner config model request context hname, he]
  rfl

/-- Without a usable reply, the file analyses are those of the scan, the issues report the findings
in their order, and scores, weakness counts, advice and status are told by the findings alone. -/
theorem analyze_fallback (hname : model.name = .ok reported)
    (hreply : ∀ raw, answerOf threads scanner config model request = .reply raw →
      ∃ e, decode raw = .error e) :
    let o := (analyze threads scanner config model request context).outcome
    let critical := o.findings.countP (·.severity = .critical)
    let high := o.findings.countP (·.severity = .high)
    let medium := o.findings.countP (·.severity = .medium)
    let low := o.findings.countP (·.severity = .low)
    o.fileAnalyses = analysesOf threads scanner config request ∧
      List.Forall₂ (fun source i ↦ Reports source.1 source.2 i) (located o.fileAnalyses) o.issues ∧
      (o.securityScore : Int) = max 0 (100 - 45 * critical - 27 * high - 14 * medium - 5 * low) ∧
      (o.overallScore : Int) = min 100 (max 0 (100 - 30 * critical - 20 * high - 5 * medium -
        2 * low + (if aggregateComplexity o.fileAnalyses < config.scoring.lowComplexityThreshold
          then 5 else 0 : Int))) ∧
      o.riskScore = min 100 (10 * critical + 7 * high + 4 * medium + low) ∧
      (∀ w ∈ o.topCwes, w.count = 2 * o.findings.countP (·.cwe = some w.cwe)) ∧
      (o.recommendations = [] ↔ o.findings = []) ∧ (o.findings = [] ↔ o.status = .degraded) := by
  intro o critical high medium low
  obtain ⟨e, he⟩ :=
    exists_outcome_fallback threads scanner config model request context hname hreply
  have hmade : FromFindings config.scoring.lowComplexityThreshold o := by
    rw [show o = _ from he]
    exact fromFindings_finish config request _ _ e _
  have hfell : FellBack e.code.text e.phase o := by
    rw [show o = _ from he]
    exact fellBack_finish config request _ _ e _
  refine ⟨?_, hmade.reports, hmade.securityScore_eq, ?_, hmade.riskScore_eq, ?_, ?_,
    hfell.degraded_iff.symm⟩
  · rw [show o = _ from he]
    rfl
  · rw [hmade.overallScore]
    exact Score.overall_of_severity_eq hmade.map_severity _ _
  · intro w hw
    rw [Outcome.count_of_mem_topCwes hw]
    exact hmade.timesNamed_eq w.cwe
  · rw [hmade.recommendations]
    exact Recommendation.ofFindings_eq_nil_iff o.findings

end

/-- A call of `eval` in a script is critical: it costs the security score of a reply without JSON
45 points. -/
theorem analyze_fallback_eval_call :
    let request : Request := ⟨[], [⟨"app.py", .added, some "eval(x)", none, 1, 0⟩], none⟩
    let model := Model.constant (.ok "oracle") (.reply "no")
    let o := (analyze (.inHalves 4) ⟨fun _ _ ↦ none, []⟩ .default model request none).outcome
    o.findings.map (·.severity) = [.critical] ∧ o.securityScore = 55 ∧ o.overallScore = 75 ∧
      o.riskScore = 10 := by
  intro request model o
  have hreply : ∀ raw,
      answerOf (.inHalves 4) ⟨fun _ _ ↦ none, []⟩ .default model request = .reply raw →
        ∃ e, decode raw = .error e := by
    have hprose : ∃ e, decode "no" = .error e := ⟨_, by with_unfolding_all rfl⟩
    intro raw hraw
    rwa [← Answer.reply.inj hraw]
  obtain ⟨hfiles, -, hsecurity, hoverall, hrisk, -⟩ :=
    analyze_fallback (.inHalves 4) ⟨fun _ _ ↦ none, []⟩ .default model request none rfl hreply
  have hscan : o.fileAnalyses = [Scanner.scanText "eval(x)" "app.py"] := by
    rw [hfiles]
    with_unfolding_all rfl
  have hfound : o.findings.map (·.severity) = [.critical] := by
    rw [show o.findings = findingsOf o.fileAnalyses from rfl, hscan]
    decide +kernel
  have hcount (s : Severity) :
      o.findings.countP (·.severity = s) = [Severity.critical].countP (· = s) := by
    rw [← hfound, List.countP_map]
    rfl
  have hbonus : aggregateComplexity o.fileAnalyses = 0 := by
    rw [hscan]
    decide +kernel
  rw [hcount, hcount, hcount, hcount] at hsecurity hrisk
  rw [hcount, hcount, hcount, hcount, hbonus] at hoverall
  refine ⟨hfound, ?_, ?_, hrisk⟩
  · exact Int.ofNat.inj hsecurity
  · exact Int.ofNat.inj hoverall

end Run

end ChangeReview
