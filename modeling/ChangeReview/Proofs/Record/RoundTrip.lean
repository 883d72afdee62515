import ChangeReview.Finding
import ChangeReview.Issue
import ChangeReview.Proofs.Record.Reading
import ChangeReview.SourceFile

/-!
# Records are read back

Findings, analyses, issues and changed files are read back from their JSON forms, as long as their
numbers fit into the words that they are read into. A changed file whose form lacks some of its
optional fields is read with the defaults of those fields.
-/

namespace ChangeReview

open Json Record Record.Fields

/-! ## Findings and analyses -/

/-- Line and column fit into 64 bits. -/
def Location.Fits : Location → Prop
  | .position line column => line < Nat.pow 2 64 ∧ column < Nat.pow 2 64
  | _ => True

theorem Location.reads_positionFields {line column : Nat} (h : (Location.position line column).Fits) :
    positionFields.Reads (.ofList [("line", .ofNat line), ("column", .ofNat column)])
      (.position line column) := by
  refine (Reads.map _ ?line).seq ?column
  case line => exact reads_required (Members.get?_ofList _ _) (natBelow_ofNat h.1 _)
  case column => exact reads_required (Members.get?_ofList _ _) (natBelow_ofNat h.2 _)

/-- All three forms of a location are read back. -/
theorem Location.ofJson_toJson {l : Location} (h : l.Fits) : ofJson l.toJson = .ok l := by
  cases l with
  | position line column =>
    exact (reads_positionFields h).ofMembers_eq (Members.sorted_ofList _)
  | described text => rfl
  | unknown => rfl

/-- The location of the finding fits. -/
def Finding.Fits (f : Finding) : Prop := f.location.Fits

theorem Finding.ofJson_toJson {f : Finding} (h : f.Fits) : ofJson f.toJson = .ok f := by
  refine Reads.record_eq (Members.sorted_ofList _) ?_ _
  refine (((((((Reads.map _ ?vulnerability).seq ?description).seq ?location).seq ?severity).seq
    ?confidence).seq ?exploitability).seq ?cwe).seq ?pattern
  case vulnerability =>
    exact reads_required (Members.get?_ofList _ _) (VulnerabilityClass.ofJson_toJson _)
  case description => exact reads_required (Members.get?_ofList _ _) rfl
  case location => exact reads_required (Members.get?_ofList _ _) (Location.ofJson_toJson h)
  case severity => exact reads_required (Members.get?_ofList _ _) (Severity.ofJson_toJson _)
  case confidence => exact reads_required (Members.get?_ofList _ _) (Confidence.ofJson_toJson _)
  case exploitability =>
    exact reads_required (Members.get?_ofList _ _) (Exploitability.ofJson_toJson _)
  case cwe =>
    exact reads_maybe (Members.get?_ofList _ _)
      (optional_ofOption (fun _ ↦ Value.noConfusion) _ fun _ _ ↦ rfl)
  case pattern => exact reads_required (Members.get?_ofList _ _) rfl

/-- Every count fits into 32 bits. -/
structure CodeMetrics.Fits (m : CodeMetrics) : Prop where
  functions : m.functions < Nat.pow 2 32
  loops : m.loops < Nat.pow 2 32
  branches : m.branches < Nat.pow 2 32
  nestingDepth : m.nestingDepth < Nat.pow 2 32
  linesOfCode : m.linesOfCode < Nat.pow 2 32

theorem CodeMetrics.ofJson_toJson {m : CodeMetrics} (h : m.Fits) : ofJson m.toJson = .ok m := by
  refine Reads.record_eq (Members.sorted_ofList _) ?_ _
  refine ((((Reads.map _ ?functions).seq ?loops).seq ?branches).seq ?nestingDepth).seq ?linesOfCode
  case functions => exact reads_required (Members.get?_ofList _ _) (natBelow_ofNat h.functions _)
  case loops => exact reads_required (Members.get?_ofList _ _) (natBelow_ofNat h.loops _)
  case branches => exact reads_required (Members.get?_ofList _ _) (natBelow_ofNat h.branches _)
  case nestingDepth =>
    exact reads_required (Members.get?_ofList _ _) (natBelow_ofNat h.nestingDepth _)
  case linesOfCode =>
    exact reads_required (Members.get?_ofList _ _) (natBelow_ofNat h.linesOfCode _)

/-- The findings and all numbers of the analysis fit. -/
structure FileAnalysis.Fits (a : FileAnalysis) : Prop where
  findings : ∀ f ∈ a.findings, f.Fits
  complexity : a.complexity < Nat.pow 2 32
  metrics : a.metrics.Fits

theorem FileAnalysis.ofJson_toJson {a : FileAnalysis} (h : a.Fits) : ofJson a.toJson = .ok a := by
  refine Reads.record_eq (Members.sorted_ofList _) ?_ _
  refine ((((Reads.map _ ?filename).seq ?findings).seq ?complexity).seq ?metrics).seq ?parsed
  case filename => exact reads_required (Members.get?_ofList _ _) rfl
  case findings =>
    exact reads_required (Members.get?_ofList _ _)
      (list_map fun f hf ↦ Finding.ofJson_toJson (h.findings f hf))
  case complexity => exact reads_required (Members.get?_ofList _ _) (natBelow_ofNat h.complexity _)
  case metrics =>
    exact reads_required (Members.get?_ofList _ _) (CodeMetrics.ofJson_toJson h.metrics)
  case parsed => exact reads_required (Members.get?_ofList _ _) rfl

/-! ## Issues -/

theorem Issue.ofJson_toJson (i : Issue) : ofJson i.toJson = .ok i := by
  refine Reads.record_eq (Members.sorted_ofList _) ?_ _
  refine (((((((((Reads.map _ ?issueType).seq ?title).seq ?description).seq ?file).seq
    ?location).seq ?severity).seq ?cwe).seq ?confidence).seq ?exploitability).seq ?origin
  case issueType => exact reads_required (Members.get?_ofList _ _) (IssueType.ofJson_toJson _)
  case title => exact reads_required (Members.get?_ofList _ _) rfl
  case description => exact reads_required (Members.get?_ofList _ _) rfl
  case file => exact reads_required (Members.get?_ofList _ _) rfl
  case location => exact reads_required (Members.get?_ofList _ _) rfl
  case severity => exact reads_required (Members.get?_ofList _ _) (Severity.ofJson_toJson _)
  case cwe =>
    exact reads_maybe (Members.get?_ofList _ _)
      (optional_ofOption (fun _ ↦ Value.noConfusion) _ fun _ _ ↦ rfl)
  case confidence => exact reads_required (Members.get?_ofList _ _) (Confidence.ofJson_toJson _)
  case exploitability =>
    exact reads_required (Members.get?_ofList _ _) (Exploitability.ofJson_toJson _)
  case origin => exact reads_required (Members.get?_ofList _ _) (IssueOrigin.ofJson_toJson _)

/-! ## Changed files -/

/-- The counts of lines fit into 32 bits. -/
structure SourceFile.Fits (f : SourceFile) : Prop where
  additions : f.additions < Nat.pow 2 32
  deletions : f.deletions < Nat.pow 2 32

/-- The fields that may be missing from the form of a changed file. -/
def SourceFile.optionalFields : List String := ["content", "patch", "additions", "deletions"]

/-- A changed file with the defaults of the dropped fields. -/
def SourceFile.withDefaults (dropped : String → Bool) (f : SourceFile) : SourceFile :=
  { f with
    content := if dropped "content" then none else f.content
    patch := if dropped "patch" then none else f.patch
    additions := if dropped "additions" then 0 else f.additions
    deletions := if dropped "deletions" then 0 else f.deletions }

/-- Optional fields that are dropped are read as their defaults. -/
theorem SourceFile.ofJson_without {f : SourceFile} (h : f.Fits) {dropped : String → Bool}
    (hdropped : ∀ name, dropped name → name ∈ optionalFields) :
    ofJson (f.toJson.without dropped) = .ok (f.withDefaults dropped) := by
  have hkept {name : String} (hname : name ∉ optionalFields) : dropped name = false :=
    Bool.eq_false_iff.mpr fun hd ↦ hname (hdropped name hd)
  refine Reads.record_eq (Members.sorted_without (Members.sorted_ofList _) dropped) ?_ _
  refine (((((Reads.map _ ?filename).seq ?status).seq ?content).seq ?patch).seq ?additions).seq
    ?deletions
  case filename =>
    exact reads_required
      (Members.get?_without_of_kept (hkept (by decide)) (Members.get?_ofList _ _)) rfl
  case status =>
    exact reads_required
      (Members.get?_without_of_kept (hkept (by decide)) (Members.get?_ofList _ _))
      (FileStatus.ofJson_toJson f.status)
  case content =>
    exact reads_withDefault (Members.get?_without_of_get? (Members.get?_ofList _ _) dropped)
      (optional_ofOption (fun _ ↦ Value.noConfusion) _ fun _ _ ↦ rfl)
  case patch =>
    exact reads_withDefault (Members.get?_without_of_get? (Members.get?_ofList _ _) dropped)
      (optional_ofOption (fun _ ↦ Value.noConfusion) _ fun _ _ ↦ rfl)
  case additions =>
    exact reads_withDefault (Members.get?_without_of_get? (Members.get?_ofList _ _) dropped)
      (natBelow_ofNat h.additions _)
  case deletions =>
    exact reads_withDefault (Members.get?_without_of_get? (Members.get?_ofList _ _) dropped)
      (natBelow_ofNat h.deletions _)

theorem SourceFile.ofJson_toJson {f : SourceFile} (h : f.Fits) : ofJson f.toJson = .ok f := by
  have hread : ofJson (f.toJson.without fun _ ↦ false) = .ok (f.withDefaults fun _ ↦ false) :=
    ofJson_without h fun _ hd ↦ absurd hd Bool.false_ne_true
  rwa [Value.without_nothing] at hread

end ChangeReview
