import ChangeReview.Proofs.Reply.Attribution
import Mathlib.Logic.ExistsUnique

/-!
# How a run ends

The outcome of a run is settled by the scan of the eligible files, the name of the model and its
answer to the one prompt. From that description follow the facts that hold of every outcome: the
summary is that of the issues, the scores stay within bounds, and status, error and findings fit
exactly one of four endings.
-/

namespace ChangeReview.Run

open Reply Scan

/-! ## The outcome in terms of scan and answer -/

/-- What the scan of a request finds. -/
def analysesOf (threads : Threads) (scanner : Scanner) (config : ReviewConfig)
    (request : Request) : List FileAnalysis :=
  scanFiles threads scanner config.parallel (eligible config.scanner request.files)

/-- The prompt that the model is given. -/
def promptOf (threads : Threads) (scanner : Scanner) (config : ReviewConfig) (request : Request) :
    String :=
  Prompt.build (String.intercalate "\n" request.commitMessages) request.files
    (analysesOf threads scanner config request) config.prompt

/-- What the model answers to that prompt. -/
def answerOf (threads : Threads) (scanner : Scanner) (config : ReviewConfig) (model : Model)
    (request : Request) : Answer :=
  (model.generate (promptOf threads scanner config request) (some .awaitingModel)).1

/-- The object in the reply of an answer, or why there is none. -/
def payloadOf (answer : Answer) : Except ModelPathError Decoded :=
  match answer.reply? with
  | .error e => .error (.call e)
  | .ok raw =>
    match decode raw with
    | .error e => .error (.decode e)
    | .ok decoded => .ok decoded

/-- The outcome before scores and metadata are attached. -/
def conclude (payload : Except ModelPathError Decoded) (analyses : List FileAnalysis) : Outcome :=
  match payload with
  | .error e => fallback e analyses
  | .ok decoded => merge decoded analyses

section

variable (threads : Threads) (scanner : Scanner) (config : ReviewConfig) (model : Model)
  (request : Request) (context : PhaseContext)

/-- A model that has a name is asked once, and its answer settles the outcome. -/
theorem outcome_analyze {reported : String} (h : model.name = .ok reported) :
    (analyze threads scanner config model request context).outcome =
      finish config request (eligible config.scanner request.files)
        (modelName config.model reported)
        (conclude (payloadOf (answerOf threads scanner config model request))
          (analysesOf threads scanner config request)) := by
  unfold payloadOf
  cases hreply : (answerOf threads scanner config model request).reply? with
  | error e =>
    simp only [answerOf, promptOf, analysesOf] at hreply
    simp only [analyze, body, h, Track.set, PhaseContext.persist, hreply]
    rfl
  | ok raw =>
    simp only [answerOf, promptOf, analysesOf] at hreply
    cases hdecode : decode raw with
    | error e =>
      simp only [analyze, body, h, Track.set, PhaseContext.persist, hreply, hdecode]
      rfl
    | ok decoded =>
      simp only [analyze, body, h, Track.set, PhaseContext.persist, hreply, hdecode]
      rfl

/-- A model that has no name leaves a failed outcome. -/
theorem outcome_analyze_of_breakdown {b : Breakdown} (h : model.name = .error b) :
    (analyze threads scanner config model request context).outcome =
      broken config request b (some .awaitingModel) := by
  simp only [analyze, body, h]
  rfl

end

/-! ## Parts of the outcome -/

/-- The issues that a payload contributes. -/
def ownIssues : Except ModelPathError Decoded → List Issue
  | .error _ => []
  | .ok decoded => (ModelReview.ofObject decoded.value).issues

section

variable (payload : Except ModelPathError Decoded) (analyses : List FileAnalysis)

theorem fileAnalyses_conclude : (conclude payload analyses).fileAnalyses = analyses := by
  cases payload <;> rfl

/-- The issues of the scanner follow those of the payload. -/
theorem issues_conclude :
    (conclude payload analyses).issues = ownIssues payload ++ scannerIssues analyses := by
  cases payload <;> rfl

theorem summary_conclude :
    (conclude payload analyses).summary = .ofIssues (conclude payload analyses).issues := by
  cases payload <;> rfl

/-- Neither way of concluding a run makes it a failed one. -/
theorem status_conclude_ne : (conclude payload analyses).status ≠ .failed := by
  cases payload with
  | ok decoded => exact OutcomeStatus.noConfusion
  | error e =>
    dsimp only [conclude, fallback]
    split <;> decide

theorem securityScore_conclude_le : (conclude payload analyses).securityScore ≤ 100 := by
  cases payload with
  | error e => exact Score.clamp_le _
  | ok decoded =>
    simp only [conclude, merge]
    split
    · next score hscore =>
      split
      · exact securityScore_ofObject_le hscore
      · exact Score.clamp_le _
    · exact Score.clamp_le _

end

/-- A run fails exactly when its model has no name. -/
theorem status_analyze_ne_iff (threads : Threads) (scanner : Scanner) (config : ReviewConfig)
    (model : Model) (request : Request) (context : PhaseContext) :
    (analyze threads scanner config model request context).outcome.status ≠ .failed ↔
      ∃ reported, model.name = .ok reported := by
  cases hname : model.name with
  | ok reported =>
    rw [outcome_analyze threads scanner config model request context hname]
    exact iff_of_true (status_conclude_ne _ _) ⟨reported, rfl⟩
  | error b =>
    rw [outcome_analyze_of_breakdown threads scanner config model request context hname]
    exact iff_of_false (fun h ↦ h rfl) fun ⟨_, h⟩ ↦ nomatch h

/-! ## The four endings -/

/-- The ways in which a run can end. -/
inductive Ending where
  /-- The reply was decoded. -/
  | merged
  /-- The model gave no reply. -/
  | callFailed
  /-- The reply could not be decoded. -/
  | replyRejected
  /-- The run broke off. -/
  | brokeOff
  deriving DecidableEq, Repr

/-- The outcome of a run that left the model path with an error. -/
structure FellBack (code : String) (phase : Phase) (o : Outcome) : Prop where
  error : ∃ e, o.error = some e ∧ e.code.text = code ∧ e.phase = some phase
  completedWithFindings : o.findings ≠ [] → o.status = .completedWithFindings
  degraded : o.findings = [] → o.status = .degraded

/-- An outcome that fell back carries an error and is not complete. -/
theorem FellBack.error_iff {code : String} {phase : Phase} {o : Outcome}
    (h : FellBack code phase o) : o.error = none ↔ o.status = .completed := by
  obtain ⟨⟨e, he, -⟩, hfindings, hnone⟩ := h
  by_cases hempty : o.findings = []
  · simp [he, hnone hempty]
  · simp [he, hfindings hempty]

/-- Such an outcome is degraded exactly when nothing was found. -/
theorem FellBack.degraded_iff {code : String} {phase : Phase} {o : Outcome}
    (h : FellBack code phase o) : o.status = .degraded ↔ o.findings = [] := by
  constructor
  · intro hstatus
    apply Decidable.byContradiction
    intro hne
    rw [h.completedWithFindings hne] at hstatus
    exact absurd hstatus (by decide)
  · exact h.degraded

theorem FellBack.code_eq {code : String} {phase : Phase} {o : Outcome}
    (h : FellBack code phase o) : o.error.map (·.code.text) = some code := by
  obtain ⟨e, he, hcode, -⟩ := h.error
  rw [he, Option.map_some, hcode]

/-- Falling back attaches the error of the model path. -/
theorem fellBack_finish (config : ReviewConfig) (request : Request) (scanned : List SourceFile)
    (model : String) (e : ModelPathError) (analyses : List FileAnalysis) :
    FellBack e.code.text e.phase (finish config request scanned model (fallback e analyses)) where
  error := ⟨e.details, rfl, rfl, rfl⟩
  completedWithFindings h := by
    have hne : (findingsOf analyses).isEmpty = false := List.isEmpty_eq_false_iff.mpr h
    simp only [finish, fallback, hne, Bool.false_eq_true, if_false]
  degraded h := by
    have hempty : (findingsOf analyses).isEmpty = true := List.isEmpty_iff.mpr h
    simp only [finish, fallback, hempty, if_true]

namespace Ending

/-- What the model did and what the outcome says in each ending. -/
def Fits (name : Except Breakdown String) (answer : Answer) (o : Outcome) : Ending → Prop
  | .merged =>
    (∃ n, name = .ok n) ∧ (∃ raw decoded, answer = .reply raw ∧ decode raw = .ok decoded) ∧
      o.status = .completed ∧ o.error = none
  | .callFailed =>
    (∃ n, name = .ok n) ∧ (∀ raw, answer ≠ .reply raw) ∧ FellBack "E060" .awaitingModel o
  | .replyRejected =>
    (∃ n, name = .ok n) ∧ (∃ raw e, answer = .reply raw ∧ decode raw = .error e) ∧
      FellBack "E061" .decoding o
  | .brokeOff =>
    (∃ b, name = .error b) ∧ o.status = .failed ∧
      (∃ e, o.error = some e ∧ e.code.text = "E062") ∧ o.issues = [] ∧ o.fileAnalyses = [] ∧
      o.securityScore = 0 ∧ o.overallScore = 0

/-- The error code of an ending. -/
def code? : Ending → Option String
  | .merged => none
  | .callFailed => some "E060"
  | .replyRejected => some "E061"
  | .brokeOff => some "E062"

theorem code?_inj {a b : Ending} (h : a.code? = b.code?) : a = b := by
  revert h
  cases a <;> cases b <;> decide

variable {name : Except Breakdown String} {answer : Answer} {o : Outcome}

/-- The outcome of an ending carries its error code. -/
theorem code_of_fits {ending : Ending} (h : ending.Fits name answer o) :
    o.error.map (·.code.text) = ending.code? := by
  cases ending with
  | merged => rw [h.2.2.2]; rfl
  | callFailed => exact h.2.2.code_eq
  | replyRejected => exact h.2.2.code_eq
  | brokeOff =>
    obtain ⟨e, he, hcode⟩ := h.2.2.1
    rw [he, Option.map_some, hcode]
    rfl

/-- No outcome fits two endings. -/
theorem eq_of_fits {a b : Ending} (ha : a.Fits name answer o) (hb : b.Fits name answer o) :
    a = b :=
  code?_inj ((code_of_fits ha).symm.trans (code_of_fits hb))

/-- An outcome without an error is complete, and the other way round. -/
theorem error_eq_none_iff_of_fits {ending : Ending} (h : ending.Fits name answer o) :
    o.error = none ↔ o.status = .completed := by
  cases ending with
  | merged => simp [h.2.2.1, h.2.2.2]
  | brokeOff =>
    obtain ⟨e, he, -⟩ := h.2.2.1
    simp [he, h.2.1]
  | callFailed => exact h.2.2.error_iff
  | replyRejected => exact h.2.2.error_iff

end Ending

/-- An outcome whose parts agree with each other, with the request and with what the model did:
exactly one ending fits. -/
structure Consistent (request : Request) (name : Except Breakdown String) (answer : Answer)
    (o : Outcome) : Prop where
  summary : o.summary = .ofIssues o.issues
  securityScore_le : o.securityScore ≤ 100
  overallScore_le : o.overallScore ≤ 100
  reviewTurn : o.reviewTurn = request.reviewTurn
  ending : ∃! ending : Ending, ending.Fits name answer o
  error_iff : o.error = none ↔ o.status = .completed

section

variable (threads : Threads) (scanner : Scanner) (config : ReviewConfig) (model : Model)
  (request : Request) (context : PhaseContext)

/-- Every run ends in one of the four ways. -/
theorem exists_fits :
    ∃ ending : Ending, ending.Fits model.name (answerOf threads scanner config model request)
      (analyze threads scanner config model request context).outcome := by
  cases hname : model.name with
  | error b =>
    rw [outcome_analyze_of_breakdown threads scanner config model request context hname]
    exact ⟨.brokeOff, ⟨b, rfl⟩, rfl, ⟨_, rfl, rfl⟩, rfl, rfl, rfl, rfl⟩
  | ok reported =>
    rw [outcome_analyze threads scanner config model request context hname]
    cases hanswer : answerOf threads scanner config model request with
    | error e =>
      exact ⟨.callFailed, ⟨reported, rfl⟩, by simp, fellBack_finish config request _ _ (.call e) _⟩
    | breakdown b =>
      exact ⟨.callFailed, ⟨reported, rfl⟩, by simp, fellBack_finish config request _ _ (.call _) _⟩
    | reply raw =>
      cases hdecode : decode raw with
      | error e =>
        refine ⟨.replyRejected, ⟨reported, rfl⟩, ⟨raw, e, rfl, hdecode⟩, ?_⟩
        simp only [payloadOf, Answer.reply?, hdecode]
        exact fellBack_finish config request _ _ (.decode e) _
      | ok decoded =>
        refine ⟨.merged, ⟨reported, rfl⟩, ⟨raw, decoded, rfl, hdecode⟩, ?_, ?_⟩
        · simp only [payloadOf, Answer.reply?, hdecode]
          rfl
        · simp only [payloadOf, Answer.reply?, hdecode]
          rfl

/-- The summary of an outcome counts its issues. -/
theorem summary_analyze :
    (analyze threads scanner config model request context).outcome.summary =
      .ofIssues (analyze threads scanner config model request context).outcome.issues := by
  cases hname : model.name with
  | error b =>
    rw [outcome_analyze_of_breakdown threads scanner config model request context hname]
    rfl
  | ok reported =>
    rw [outcome_analyze threads scanner config model request context hname]
    exact summary_conclude _ _

theorem securityScore_analyze_le :
    (analyze threads scanner config model request context).outcome.securityScore ≤ 100 := by
  cases hname : model.name with
  | error b =>
    rw [outcome_analyze_of_breakdown threads scanner config model request context hname]
    exact Nat.zero_le 100
  | ok reported =>
    rw [outcome_analyze threads scanner config model request context hname]
    exact securityScore_conclude_le _ _

theorem overallScore_analyze_le :
    (analyze threads scanner config model request context).outcome.overallScore ≤ 100 := by
  cases hname : model.name with
  | error b =>
    rw [outcome_analyze_of_breakdown threads scanner config model request context hname]
    exact Nat.zero_le 100
  | ok reported =>
    rw [outcome_analyze threads scanner config model request context hname]
    exact Score.clamp_le _

theorem reviewTurn_analyze :
    (analyze threads scanner config model request context).outcome.reviewTurn =
      request.reviewTurn := by
  cases hname : model.name with
  | error b =>
    rw [outcome_analyze_of_breakdown threads scanner config model request context hname]
    rfl
  | ok reported =>
    rw [outcome_analyze threads scanner config model request context hname]
    rfl

/-- The outcome of every run is consistent with what the model did. -/
theorem analyze_consistent :
    Consistent request model.name (answerOf threads scanner config model request)
      (analyze threads scanner config model request context).outcome := by
  obtain ⟨ending, hfits⟩ := exists_fits threads scanner config model request context
  constructor
  · exact summary_analyze threads scanner config model request context
  · exact securityScore_analyze_le threads scanner config model request context
  · exact overallScore_analyze_le threads scanner config model request context
  · exact reviewTurn_analyze threads scanner config model request context
  · exact ⟨ending, hfits, fun other hother ↦ Ending.eq_of_fits hother hfits⟩
  · exact Ending.error_eq_none_iff_of_fits hfits

end

end ChangeReview.Run
