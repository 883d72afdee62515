import ChangeReview.SourceFile
import ChangeReview.Score

/-!
# Configuration

The settings of a review in five sections, their defaults, their validation, and their JSON form.
Every section and every field may be missing from the form; a missing one takes its default.
-/

namespace ChangeReview

open Record.Fields

/-- Bounds on the prompt. -/
structure PromptLimits where
  /-- Files shown, in input order. -/
  maxFiles : Nat
  /-- Characters kept of each patch. -/
  maxPatchChars : Nat
  /-- Critical and high findings listed. -/
  maxHighlighted : Nat
  deriving DecidableEq, Repr

namespace PromptLimits

def default : PromptLimits := ⟨10, 2000, 5⟩

def toJson (l : PromptLimits) : Json.Value := .ofPairs [
  ("max_files", .ofNat l.maxFiles),
  ("max_patch_chars", .ofNat l.maxPatchChars),
  ("max_highlighted_findings", .ofNat l.maxHighlighted)]

def fields : Record.Fields PromptLimits :=
  PromptLimits.mk
    <$> withDefault "max_files" Record.nat64 default.maxFiles
    <*> withDefault "max_patch_chars" Record.nat64 default.maxPatchChars
    <*> withDefault "max_highlighted_findings" Record.nat64 default.maxHighlighted

def ofJson : Json.Value → Record.Read PromptLimits := Record.Fields.record "PromptLimits" fields

end PromptLimits

/-- Which files are scanned. -/
structure ScannerConfig where
  /-- Extensions without their dot. -/
  sourceExtensions : List String
  deriving DecidableEq, Repr

namespace ScannerConfig

def defaultExtensions : List String := [
  "js", "mjs", "cjs", "jsx", "ts", "mts", "cts", "tsx", "vue", "py", "java", "cs", "php", "go",
  "rb", "html"]

def default : ScannerConfig := ⟨defaultExtensions⟩

/-- Whether the extension of a file name is one of the configured, up to ASCII case. -/
def isSourceFile (c : ScannerConfig) (filename : String) : Bool :=
  match Path.extension? filename with
  | some ext => c.sourceExtensions.any fun known => Text.eqIgnoringCase known ext
  | none => false

def toJson (c : ScannerConfig) : Json.Value := .ofPairs [
  ("source_extensions", .array (c.sourceExtensions.map .string))]

def fields : Record.Fields ScannerConfig :=
  ScannerConfig.mk
    <$> withDefault "source_extensions" (Record.list Record.string) default.sourceExtensions

def ofJson : Json.Value → Record.Read ScannerConfig := Record.Fields.record "ScannerConfig" fields

end ScannerConfig

/-- How many files are scanned at once. -/
structure ParallelConfig where
  enabled : Bool
  /-- Upper bound; none leaves it to the machine. -/
  maxConcurrency : Option Nat
  deriving DecidableEq, Repr

/-- A number of workers. -/
inductive Concurrency where
  | workers (count : Nat)
  /-- As many as the machine has. -/
  | machine
  deriving DecidableEq, Repr

namespace ParallelConfig

def default : ParallelConfig := ⟨true, none⟩

/-- One file after the other. -/
def sequential : ParallelConfig := { default with enabled := false }

/-- How many files are scanned at once: one when disabled, at least one otherwise. -/
def effective (c : ParallelConfig) : Concurrency :=
  if !c.enabled then .workers 1
  else
    match c.maxConcurrency with
    | some n => .workers (max n 1)
    | none => .machine

/-- The workers of a pool of its own, when the number is bounded. A bound of zero leaves the number
to the machine. -/
def pool (c : ParallelConfig) : Option Concurrency :=
  c.maxConcurrency.map fun n => if n = 0 then .machine else .workers n

def toJson (c : ParallelConfig) : Json.Value := .ofPairs [
  ("enabled", .bool c.enabled),
  ("max_concurrency", .ofOption (c.maxConcurrency.map .ofNat))]

def fields : Record.Fields ParallelConfig :=
  ParallelConfig.mk
    <$> withDefault "enabled" Record.bool default.enabled
    <*> withDefault "max_concurrency" (Record.optional Record.nat64) none

def ofJson : Json.Value → Record.Read ParallelConfig :=
  Record.Fields.record "ParallelConfig" fields

end ParallelConfig

/-- What is known about the model. -/
structure ModelConfig where
  /-- Reported when the model does not name itself. -/
  name : Option String
  deriving DecidableEq, Repr

namespace ModelConfig

def default : ModelConfig := ⟨none⟩

def toJson (c : ModelConfig) : Json.Value := .ofPairs [
  ("name", .ofOption (c.name.map .string))]

def fields : Record.Fields ModelConfig :=
  ModelConfig.mk <$> withDefault "name" (Record.optional Record.string) none

def ofJson : Json.Value → Record.Read ModelConfig := Record.Fields.record "ModelConfig" fields

end ModelConfig

/-- Settings of the scores. -/
structure ScoringConfig where
  /-- Aggregate complexity below this earns the bonus. -/
  lowComplexityThreshold : Nat
  deriving DecidableEq, Repr

namespace ScoringConfig

def default : ScoringConfig := ⟨Score.defaultThreshold⟩

def toJson (c : ScoringConfig) : Json.Value := .ofPairs [
  ("low_complexity_threshold", .ofNat c.lowComplexityThreshold)]

def fields : Record.Fields ScoringConfig :=
  ScoringConfig.mk
    <$> withDefault "low_complexity_threshold" Record.nat32 default.lowComplexityThreshold

def ofJson : Json.Value → Record.Read ScoringConfig := Record.Fields.record "ScoringConfig" fields

end ScoringConfig

/-- All settings. -/
structure ReviewConfig where
  prompt : PromptLimits
  scanner : ScannerConfig
  parallel : ParallelConfig
  model : ModelConfig
  scoring : ScoringConfig
  deriving DecidableEq, Repr

namespace ReviewConfig

def default : ReviewConfig := ⟨.default, .default, .default, .default, .default⟩

def toJson (c : ReviewConfig) : Json.Value := .ofPairs [
  ("prompt", c.prompt.toJson),
  ("scanner", c.scanner.toJson),
  ("parallel", c.parallel.toJson),
  ("model", c.model.toJson),
  ("scoring", c.scoring.toJson)]

def fields : Record.Fields ReviewConfig :=
  ReviewConfig.mk
    <$> withDefault "prompt" PromptLimits.ofJson .default
    <*> withDefault "scanner" ScannerConfig.ofJson .default
    <*> withDefault "parallel" ParallelConfig.ofJson .default
    <*> withDefault "model" ModelConfig.ofJson .default
    <*> withDefault "scoring" ScoringConfig.ofJson .default

def ofJson : Json.Value → Record.Read ReviewConfig := Record.Fields.record "ReviewConfig" fields

end ReviewConfig

/-! ## Validation -/

/-- A setting that is refused, with what is wrong with it. -/
inductive ConfigFault where
  | zeroMaxFiles
  | zeroMaxPatchChars
  | zeroMaxHighlighted
  | noExtensions
  | dottedExtension (extension : String)
  | zeroConcurrency
  deriving DecidableEq, Repr

namespace ConfigFault

/-- The setting, by section and name. -/
def field : ConfigFault → String
  | .zeroMaxFiles => "prompt.max_files"
  | .zeroMaxPatchChars => "prompt.max_patch_chars"
  | .zeroMaxHighlighted => "prompt.max_highlighted_findings"
  | .noExtensions => "scanner.source_extensions"
  | .dottedExtension _ => "scanner.source_extensions"
  | .zeroConcurrency => "parallel.max_concurrency"

/-- What is wrong with it. -/
def reason : ConfigFault → String
  | .zeroMaxFiles | .zeroMaxPatchChars | .zeroMaxHighlighted => "must be greater than zero"
  | .noExtensions => "at least one extension is required"
  | .dottedExtension ext => "'" ++ ext ++ "' should be given without the leading dot"
  | .zeroConcurrency => "must be at least 1 when set"

def message (f : ConfigFault) : String :=
  "Invalid configuration value for " ++ f.field ++ ": " ++ f.reason

end ConfigFault

namespace ReviewConfig

/-- Whether an extension begins with a dot. -/
def isDotted (extension : String) : Bool := extension.toList.head? == some '.'

/-- The first setting that is refused, in the order of the sections. -/
def fault? (c : ReviewConfig) : Option ConfigFault :=
  if c.prompt.maxFiles = 0 then some .zeroMaxFiles
  else if c.prompt.maxPatchChars = 0 then some .zeroMaxPatchChars
  else if c.prompt.maxHighlighted = 0 then some .zeroMaxHighlighted
  else if c.scanner.sourceExtensions = [] then some .noExtensions
  else
    match c.scanner.sourceExtensions.find? isDotted with
    | some ext => some (.dottedExtension ext)
    | none => if c.parallel.maxConcurrency = some 0 then some .zeroConcurrency else none

/-- A configuration without a refused setting. -/
def validate (c : ReviewConfig) : Except ConfigFault Unit :=
  match c.fault? with
  | some f => .error f
  | none => .ok ()

theorem fault?_default : default.fault? = none := by decide

end ReviewConfig

end ChangeReview
