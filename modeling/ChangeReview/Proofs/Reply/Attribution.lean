import ChangeReview.Reply.Review
import ChangeReview.Run
import Mathlib.Data.List.Forall2

/-!
# Where issues come from

The issues of a reply are the model's and those made from findings are the scanner's, whatever the
reply says about itself. The latter report the findings one by one, so every sum or count over them
that looks at shared fields is the same over the findings.
-/

namespace ChangeReview.Reply

/-! ## Issues of a reply -/

/-- A reply cannot choose the origin of its issues. -/
theorem origin_ofObject {o : Json.Members} {i : Issue} (h : i ∈ (ModelReview.ofObject o).issues) :
    i.origin = .model := by
  obtain ⟨entry, -, rfl⟩ := List.mem_map.mp h
  rfl

theorem scoreOfReal_le (x : Binary64) : scoreOfReal x ≤ 100 := by
  unfold scoreOfReal
  omega

/-- The score that a reply gives is clamped. -/
theorem securityScore_ofObject_le {o : Json.Members} {score : Nat}
    (h : (ModelReview.ofObject o).securityScore = some score) : score ≤ 100 := by
  obtain ⟨v, -, hv⟩ := Option.bind_eq_some_iff.mp h
  unfold scoreOfValue? at hv
  split at hv
  · obtain rfl := Option.some.inj hv
    exact scoreOfReal_le _
  · obtain ⟨x, -, rfl⟩ := Option.map_eq_some_iff.mp hv
    exact scoreOfReal_le x
  · exact absurd hv (by simp)

/-! ## Issues made from findings -/

theorem origin_scannerIssues {analyses : List FileAnalysis} {i : Issue}
    (h : i ∈ scannerIssues analyses) : i.origin = .scanner := by
  obtain ⟨a, -, hi⟩ := List.mem_flatMap.mp h
  obtain ⟨f, -, rfl⟩ := List.mem_map.mp hi
  rfl

theorem issueType_scannerIssues {analyses : List FileAnalysis} {i : Issue}
    (h : i ∈ scannerIssues analyses) : i.issueType = .security := by
  obtain ⟨a, -, hi⟩ := List.mem_flatMap.mp h
  obtain ⟨f, -, rfl⟩ := List.mem_map.mp hi
  rfl

/-- What an issue takes over from its finding is the same over all issues and all findings. -/
theorem map_scannerIssues {α : Type} {ofIssue : Issue → α} {ofFinding : Finding → α}
    (h : ∀ filename f, ofIssue (issueOfFinding filename f) = ofFinding f)
    (analyses : List FileAnalysis) :
    (scannerIssues analyses).map ofIssue = (Run.findingsOf analyses).map ofFinding := by
  induction analyses with
  | nil => rfl
  | cons a analyses ih =>
    rw [scannerIssues, List.flatMap_cons, List.map_append, List.map_map, Run.findingsOf,
      List.flatMap_cons, List.map_append]
    rw [scannerIssues, Run.findingsOf] at ih
    rw [ih]
    congr 1
    exact List.map_congr_left fun f _ ↦ h a.filename f

/-- The severities of the issues are those of the findings. -/
theorem map_severity_scannerIssues (analyses : List FileAnalysis) :
    (scannerIssues analyses).map (·.severity) = (Run.findingsOf analyses).map (·.severity) :=
  map_scannerIssues (fun _ _ ↦ rfl) analyses

/-- As many issues as findings are of a severity. -/
theorem countP_severity_scannerIssues (analyses : List FileAnalysis) (s : Severity) :
    (scannerIssues analyses).countP (·.severity = s) =
      (Run.findingsOf analyses).countP (·.severity = s) := by
  have hcount := congrArg (List.countP fun t ↦ decide (t = s))
    (map_severity_scannerIssues analyses)
  rw [List.countP_map, List.countP_map] at hcount
  exact hcount

/-- The weaknesses that the issues name are those that the findings name. -/
theorem filterMap_cwe_scannerIssues (analyses : List FileAnalysis) :
    (scannerIssues analyses).filterMap (·.cwe) = (Run.findingsOf analyses).filterMap (·.cwe) := by
  have hmap : (scannerIssues analyses).map (·.cwe) = (Run.findingsOf analyses).map (·.cwe) :=
    map_scannerIssues (fun _ _ ↦ rfl) analyses
  have hcwe := congrArg (List.filterMap id) hmap
  rw [List.filterMap_map, List.filterMap_map] at hcwe
  exact hcwe

/-- An issue says what a finding in a file says. -/
structure Reports (filename : String) (f : Finding) (i : Issue) : Prop where
  issueType : i.issueType = .security
  origin : i.origin = .scanner
  title : i.title = f.vulnerability.label
  file : i.file = filename
  location : i.location = f.location.text
  severity : i.severity = f.severity
  cwe : i.cwe = f.cwe
  confidence : i.confidence = f.confidence
  exploitability : i.exploitability = f.exploitability
  description : i.description = f.description

theorem reports_issueOfFinding (filename : String) (f : Finding) :
    Reports filename f (issueOfFinding filename f) :=
  ⟨rfl, rfl, rfl, rfl, rfl, rfl, rfl, rfl, rfl, rfl⟩

/-- The findings with the names of their files, in file then finding order. -/
def located (analyses : List FileAnalysis) : List (String × Finding) :=
  analyses.flatMap fun a ↦ a.findings.map fun f ↦ (a.filename, f)

/-- Issue by issue, the findings are reported in their order. -/
theorem reports_scannerIssues (analyses : List FileAnalysis) :
    List.Forall₂ (fun source i ↦ Reports source.1 source.2 i) (located analyses)
      (scannerIssues analyses) := by
  induction analyses with
  | nil => exact .nil
  | cons a analyses ih =>
    rw [located, scannerIssues, List.flatMap_cons, List.flatMap_cons]
    refine List.rel_append ?_ ih
    rw [List.forall₂_map_left_iff, List.forall₂_map_right_iff, List.forall₂_same]
    intro f _
    exact reports_issueOfFinding a.filename f

end ChangeReview.Reply
