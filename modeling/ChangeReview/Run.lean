import ChangeReview.Model
import ChangeReview.Outcome
import ChangeReview.Prompt
import ChangeReview.Recommendation
import ChangeReview.Reply.Decode
import ChangeReview.Reply.Review
import ChangeReview.Scan.FileScan
import ChangeReview.Scan.Threads

/-!
# One review

A run scans the eligible files, builds the prompt, asks the model once, decodes the reply, and then
either merges the issues of model and scanner or falls back to those of the scanner. Scores and
metadata come last. A run always ends with an outcome: when the model fails, with an error attached;
when anything else breaks off, with a failed outcome that names the phase.

The phases that a run sets are recorded in order.
-/

namespace ChangeReview

/-- What is reviewed. -/
structure Request where
  commitMessages : List String
  files : List SourceFile
  /-- A number that is copied onto the outcome. -/
  reviewTurn : Option Nat
  deriving DecidableEq, Repr

namespace Run

open Reply Scan

/-! ## Scanning -/

/-- A file is scanned when it still exists, its content is known, and its extension is configured. -/
def isEligible (config : ScannerConfig) (f : SourceFile) : Bool :=
  f.status ≠ .removed && f.content.isSome && config.isSourceFile f.filename

/-- The files that are scanned, in input order. -/
def eligible (config : ScannerConfig) (files : List SourceFile) : List SourceFile :=
  files.filter (isEligible config)

/-- Scan one file; a scan that breaks off leaves an empty analysis of that file. -/
def scanFile (scanner : Scanner) (f : SourceFile) : FileAnalysis :=
  match scanner.scan (f.content.getD "") f.filename with
  | .ok analysis => analysis
  | .error _ => .empty f.filename

/-- Scan files independently of each other. A single worker and a single file need no pool; else the
run takes the pool of its own, if it gets one, and the shared pool otherwise. -/
def scanFiles (threads : Threads) (scanner : Scanner) (parallel : ParallelConfig)
    (files : List SourceFile) : List FileAnalysis :=
  if threads.workers parallel ≤ 1 ∨ files.length ≤ 1 then files.map (scanFile scanner)
  else
    match threads.dedicated? parallel with
    | some (.ok pool) => pool.map (scanFile scanner) files
    | some (.error _) => threads.shared.map (scanFile scanner) files
    | none => threads.shared.map (scanFile scanner) files

/-! ## The result of the model -/

/-- Why the model path was left. -/
inductive ModelPathError where
  | call (e : ModelError)
  | decode (e : Exhausted)
  deriving DecidableEq, Repr

namespace ModelPathError

def code : ModelPathError → ErrorCode
  | .call _ => .modelCall
  | .decode _ => .responseDecode

def phase : ModelPathError → Phase
  | .call _ => .awaitingModel
  | .decode _ => .decoding

def message : ModelPathError → String
  | .call e => "model call failed: " ++ e.message
  | .decode e => e.message

def details (e : ModelPathError) : ErrorDetails := ⟨e.code, e.message, some e.phase⟩

end ModelPathError

/-- All findings, in file then finding order. -/
def findingsOf (analyses : List FileAnalysis) : List Finding := analyses.flatMap (·.findings)

/-- The outcome of a decoded reply: the issues of the model, then those of the scanner. A positive
score of the model is taken over, and so are its recommendations when it has any. -/
def merge (decoded : Decoded) (analyses : List FileAnalysis) : Outcome :=
  let review := ModelReview.ofObject decoded.value
  let issues := review.issues ++ scannerIssues analyses
  let findings := findingsOf analyses
  { Outcome.ofIssues issues analyses with
    securityScore :=
      match review.securityScore with
      | some score => if 0 < score then score else Score.security issues findings
      | none => Score.security issues findings
    recommendations :=
      if review.recommendations.isEmpty then Recommendation.ofFindings findings
      else review.recommendations }

/-- The outcome without a usable reply: the issues of the scanner alone. -/
def fallback (e : ModelPathError) (analyses : List FileAnalysis) : Outcome :=
  let issues := scannerIssues analyses
  let findings := findingsOf analyses
  { Outcome.ofIssues issues analyses with
    securityScore := Score.security issues findings
    recommendations := Recommendation.ofFindings findings
    status := if findings.isEmpty then .degraded else .completedWithFindings
    error := some e.details }

/-! ## Scores and metadata -/

/-- The mean complexity of the files: divided as doubles, then rounded with halves up; zero without
files. -/
def aggregateComplexity (analyses : List FileAnalysis) : Nat :=
  if analyses.isEmpty then 0
  else Tally.roundedQuotient (analyses.foldr (fun a n => a.complexity + n) 0) analyses.length

/-- The extensions of files, in order and each once. -/
def codeFileTypes (files : List SourceFile) : List String :=
  ((files.filterMap SourceFile.extension?).eraseDups).mergeSort

/-- The name of the model: its own, or the configured one when it has none. -/
def modelName (config : ModelConfig) (reported : String) : String :=
  if reported.isEmpty then config.name.getD "" else reported

/-- Attach what is known at the end of a run. -/
def finish (config : ReviewConfig) (request : Request) (scanned : List SourceFile) (model : String)
    (o : Outcome) : Outcome :=
  { o with
    overallScore := Score.overall o.issues o.findings (aggregateComplexity o.fileAnalyses)
      config.scoring.lowComplexityThreshold
    reviewTurn := request.reviewTurn
    metadata := {
      filesAnalyzed := o.fileAnalyses.length
      syntaxAnalysisPerformed := o.fileAnalyses.any (·.parsed)
      model := model
      codeFileTypes := codeFileTypes scanned } }

/-- The outcome of a run that broke off. -/
def broken (config : ReviewConfig) (request : Request) (b : Breakdown) (phase : Option Phase) :
    Outcome :=
  let o := Outcome.failed ⟨.pipelineFault, "internal error during review: " ++ b.message, phase⟩
  { o with
    reviewTurn := request.reviewTurn
    metadata := { Metadata.empty with model := config.model.name.getD "" } }

/-! ## The run -/

/-- What a run has done so far: the current phase and the phases that it has set, last first. -/
structure Track where
  context : PhaseContext
  own : List Phase
  deriving DecidableEq, Repr

/-- Set a phase. -/
def Track.set (t : Track) (phase : Phase) : Track :=
  ⟨t.context.persist phase, phase :: t.own⟩

/-- What a run leaves behind. -/
structure Ended where
  outcome : Outcome
  /-- The phases that the run set, in order. -/
  phases : List Phase
  /-- The context after the run. -/
  context : PhaseContext
  /-- The prompts that the model was given. -/
  prompts : List String
  deriving DecidableEq, Repr

/-- The part of a run that may break off: the outcome or what broke, the track, and the prompts. -/
def body (threads : Threads) (scanner : Scanner) (config : ReviewConfig) (model : Model)
    (request : Request) (track : Track) : Except Breakdown Outcome × Track × List String :=
  let track := track.set .scanning
  let files := eligible config.scanner request.files
  let analyses := scanFiles threads scanner config.parallel files
  let track := track.set .prompting
  let prompt := Prompt.build (String.intercalate "\n" request.commitMessages) request.files analyses
    config.prompt
  let track := track.set .awaitingModel
  match model.name with
  | .error b => (.error b, track, [])
  | .ok reported =>
    let name := modelName config.model reported
    let (answer, context) := model.generate prompt track.context
    let track := { track with context }
    match answer.reply? with
    | .error e =>
      let o := fallback (.call e) analyses
      let track := ((track.set .fallback).set .scored).set .done
      (.ok (finish config request files name o), track, [prompt])
    | .ok raw =>
      let track := track.set .decoding
      match decode raw with
      | .error e =>
        let o := fallback (.decode e) analyses
        let track := ((track.set .fallback).set .scored).set .done
        (.ok (finish config request files name o), track, [prompt])
      | .ok decoded =>
        let o := merge decoded analyses
        let track := ((track.set .merged).set .scored).set .done
        (.ok (finish config request files name o), track, [prompt])

/-- Run one review. The first phase is set under a guard, which puts the context back at the end. -/
def analyze (threads : Threads) (scanner : Scanner) (config : ReviewConfig) (model : Model)
    (request : Request) (context : PhaseContext) : Ended :=
  let (guard, entered) := context.enter .init
  let (result, track, prompts) := body threads scanner config model request ⟨entered, [.init]⟩
  match result with
  | .ok outcome => ⟨outcome, track.own.reverse, track.context.leave guard, prompts⟩
  | .error b =>
    let outcome := broken config request b track.context
    let track := track.set .error
    ⟨outcome, track.own.reverse, track.context.leave guard, prompts⟩

end Run

end ChangeReview
