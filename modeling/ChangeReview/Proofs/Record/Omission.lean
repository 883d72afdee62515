import ChangeReview.Config
import ChangeReview.Proofs.Record.RoundTrip

/-!
# Settings that are left out

A configuration is read back from its JSON form. When sections are left out of the form, or settings
out of the sections that stay, what is read has the defaults in their places and is the same
everywhere else. Reading a whole form back is the case in which nothing is left out.
-/

namespace ChangeReview

open Json Record Record.Fields

/-! ## Sections -/

/-- Every bound fits into 64 bits. -/
structure PromptLimits.Fits (l : PromptLimits) : Prop where
  maxFiles : l.maxFiles < Nat.pow 2 64
  maxPatchChars : l.maxPatchChars < Nat.pow 2 64
  maxHighlighted : l.maxHighlighted < Nat.pow 2 64

/-- Bounds with the defaults of the dropped ones. -/
def PromptLimits.withDefaults (dropped : String → Bool) (l : PromptLimits) : PromptLimits where
  maxFiles := if dropped "max_files" then default.maxFiles else l.maxFiles
  maxPatchChars := if dropped "max_patch_chars" then default.maxPatchChars else l.maxPatchChars
  maxHighlighted :=
    if dropped "max_highlighted_findings" then default.maxHighlighted else l.maxHighlighted

theorem PromptLimits.ofJson_without {l : PromptLimits} (h : l.Fits) (dropped : String → Bool) :
    ofJson (l.toJson.without dropped) = .ok (l.withDefaults dropped) := by
  refine Reads.record_eq (Members.sorted_without (Members.sorted_ofList _) dropped) ?_ _
  refine ((Reads.map _ ?maxFiles).seq ?maxPatchChars).seq ?maxHighlighted
  case maxFiles =>
    exact reads_withDefault (Members.get?_without_of_get? (Members.get?_ofList _ _) dropped)
      (natBelow_ofNat h.maxFiles _)
  case maxPatchChars =>
    exact reads_withDefault (Members.get?_without_of_get? (Members.get?_ofList _ _) dropped)
      (natBelow_ofNat h.maxPatchChars _)
  case maxHighlighted =>
    exact reads_withDefault (Members.get?_without_of_get? (Members.get?_ofList _ _) dropped)
      (natBelow_ofNat h.maxHighlighted _)

def ScannerConfig.withDefaults (dropped : String → Bool) (c : ScannerConfig) : ScannerConfig where
  sourceExtensions :=
    if dropped "source_extensions" then default.sourceExtensions else c.sourceExtensions

theorem ScannerConfig.ofJson_without (c : ScannerConfig) (dropped : String → Bool) :
    ofJson (c.toJson.without dropped) = .ok (c.withDefaults dropped) := by
  refine Reads.record_eq (Members.sorted_without (Members.sorted_ofList _) dropped) ?_ _
  exact Reads.map _
    (reads_withDefault (Members.get?_without_of_get? (Members.get?_ofList _ _) dropped)
      (list_map fun _ _ ↦ rfl))

/-- A bound on the number of workers fits into 64 bits. -/
def ParallelConfig.Fits (c : ParallelConfig) : Prop := ∀ n ∈ c.maxConcurrency, n < Nat.pow 2 64

def ParallelConfig.withDefaults (dropped : String → Bool) (c : ParallelConfig) : ParallelConfig where
  enabled := if dropped "enabled" then default.enabled else c.enabled
  maxConcurrency := if dropped "max_concurrency" then default.maxConcurrency else c.maxConcurrency

theorem ParallelConfig.ofJson_without {c : ParallelConfig} (h : c.Fits) (dropped : String → Bool) :
    ofJson (c.toJson.without dropped) = .ok (c.withDefaults dropped) := by
  refine Reads.record_eq (Members.sorted_without (Members.sorted_ofList _) dropped) ?_ _
  refine (Reads.map _ ?enabled).seq ?maxConcurrency
  case enabled =>
    exact reads_withDefault (Members.get?_without_of_get? (Members.get?_ofList _ _) dropped) rfl
  case maxConcurrency =>
    exact reads_withDefault (Members.get?_without_of_get? (Members.get?_ofList _ _) dropped)
      (optional_ofOption (fun _ ↦ Value.noConfusion) _ fun n hn ↦ natBelow_ofNat (h n hn) _)

def ModelConfig.withDefaults (dropped : String → Bool) (c : ModelConfig) : ModelConfig where
  name := if dropped "name" then default.name else c.name

theorem ModelConfig.ofJson_without (c : ModelConfig) (dropped : String → Bool) :
    ofJson (c.toJson.without dropped) = .ok (c.withDefaults dropped) := by
  refine Reads.record_eq (Members.sorted_without (Members.sorted_ofList _) dropped) ?_ _
  exact Reads.map _
    (reads_withDefault (Members.get?_without_of_get? (Members.get?_ofList _ _) dropped)
      (optional_ofOption (fun _ ↦ Value.noConfusion) _ fun _ _ ↦ rfl))

/-- The threshold fits into 32 bits. -/
def ScoringConfig.Fits (c : ScoringConfig) : Prop := c.lowComplexityThreshold < Nat.pow 2 32

def ScoringConfig.withDefaults (dropped : String → Bool) (c : ScoringConfig) : ScoringConfig where
  lowComplexityThreshold :=
    if dropped "low_complexity_threshold" then default.lowComplexityThreshold
    else c.lowComplexityThreshold

theorem ScoringConfig.ofJson_without {c : ScoringConfig} (h : c.Fits) (dropped : String → Bool) :
    ofJson (c.toJson.without dropped) = .ok (c.withDefaults dropped) := by
  refine Reads.record_eq (Members.sorted_without (Members.sorted_ofList _) dropped) ?_ _
  exact Reads.map _
    (reads_withDefault (Members.get?_without_of_get? (Members.get?_ofList _ _) dropped)
      (natBelow_ofNat h _))

/-! ## Configurations -/

/-- What is left out of the form of a configuration: whole sections, and settings by their section
and name. -/
structure Omitted where
  sections : String → Bool
  settings : String → String → Bool

namespace ReviewConfig

/-- Every number of the configuration fits. -/
structure Fits (c : ReviewConfig) : Prop where
  prompt : c.prompt.Fits
  parallel : c.parallel.Fits
  scoring : c.scoring.Fits

/-- The form of a configuration with parts left out. -/
def formWithout (omitted : Omitted) (c : ReviewConfig) : Value :=
  (c.toJson.without omitted.sections).mapMembers fun name v ↦ v.without (omitted.settings name)

/-- The configuration with the defaults of the parts left out. -/
def withDefaults (omitted : Omitted) (c : ReviewConfig) : ReviewConfig where
  prompt :=
    if omitted.sections "prompt" then .default
    else c.prompt.withDefaults (omitted.settings "prompt")
  scanner :=
    if omitted.sections "scanner" then .default
    else c.scanner.withDefaults (omitted.settings "scanner")
  parallel :=
    if omitted.sections "parallel" then .default
    else c.parallel.withDefaults (omitted.settings "parallel")
  model :=
    if omitted.sections "model" then .default
    else c.model.withDefaults (omitted.settings "model")
  scoring :=
    if omitted.sections "scoring" then .default
    else c.scoring.withDefaults (omitted.settings "scoring")

/-- What is found under the name of a section when parts are left out. -/
theorem get?_section {omitted : Omitted} {members : Members} {name : String} {v : Value}
    (h : members.get? name = some v) :
    ((members.without omitted.sections).mapValues
      fun name v ↦ v.without (omitted.settings name)).get? name =
      if omitted.sections name then none else some (v.without (omitted.settings name)) := by
  rw [Members.get?_mapValues, Members.get?_without_of_get? h]
  split <;> rfl

/-- Parts that are left out are read as their defaults. -/
theorem ofJson_formWithout {c : ReviewConfig} (h : c.Fits) (omitted : Omitted) :
    ofJson (c.formWithout omitted) = .ok (c.withDefaults omitted) := by
  refine Reads.record_eq (Members.sorted_mapValues
    (Members.sorted_without (Members.sorted_ofList _) omitted.sections) _) ?_ _
  refine ((((Reads.map _ ?prompt).seq ?scanner).seq ?parallel).seq ?model).seq ?scoring
  case prompt =>
    exact reads_withDefault (get?_section (Members.get?_ofList _ _))
      (PromptLimits.ofJson_without h.prompt _)
  case scanner =>
    exact reads_withDefault (get?_section (Members.get?_ofList _ _))
      (ScannerConfig.ofJson_without c.scanner _)
  case parallel =>
    exact reads_withDefault (get?_section (Members.get?_ofList _ _))
      (ParallelConfig.ofJson_without h.parallel _)
  case model =>
    exact reads_withDefault (get?_section (Members.get?_ofList _ _))
      (ModelConfig.ofJson_without c.model _)
  case scoring =>
    exact reads_withDefault (get?_section (Members.get?_ofList _ _))
      (ScoringConfig.ofJson_without h.scoring _)

theorem ofJson_toJson {c : ReviewConfig} (h : c.Fits) : ofJson c.toJson = .ok c := by
  have hread : ofJson (c.formWithout ⟨fun _ ↦ false, fun _ _ ↦ false⟩) =
      .ok (c.withDefaults ⟨fun _ ↦ false, fun _ _ ↦ false⟩) := ofJson_formWithout h _
  simp only [formWithout, Value.without_nothing, Value.mapMembers_id] at hread
  exact hread

end ReviewConfig

/-! ## All records -/

/-- Values that fit are read back from their forms, so that different ones have different forms. -/
structure Survives {α : Type} (toJson : α → Value) (ofJson : Value → Read α) (fits : α → Prop) :
    Prop where
  readBack : ∀ a, fits a → ofJson (toJson a) = .ok a
  distinct : ∀ a b, fits a → fits b → a ≠ b → toJson a ≠ toJson b

theorem survives_of_readBack {α : Type} {toJson : α → Value} {ofJson : Value → Read α}
    {fits : α → Prop} (h : ∀ a, fits a → ofJson (toJson a) = .ok a) :
    Survives toJson ofJson fits where
  readBack := h
  distinct a b ha hb hne hform := by
    have hread := h a ha
    rw [hform, h b hb] at hread
    exact hne (Except.ok.inj hread).symm

/-- Every record survives its JSON form, and what is left out of the form of a configuration or of
the optional fields of a changed file comes back as its default. -/
theorem records_survive_json :
    Survives Finding.toJson Finding.ofJson Finding.Fits ∧
    Survives FileAnalysis.toJson FileAnalysis.ofJson FileAnalysis.Fits ∧
    Survives Issue.toJson Issue.ofJson (fun _ ↦ True) ∧
    Survives SourceFile.toJson SourceFile.ofJson SourceFile.Fits ∧
    Survives ReviewConfig.toJson ReviewConfig.ofJson ReviewConfig.Fits ∧
    (∀ (c : ReviewConfig) (omitted : Omitted), c.Fits →
      ReviewConfig.ofJson (c.formWithout omitted) = .ok (c.withDefaults omitted)) ∧
    ∀ (f : SourceFile) (dropped : String → Bool), f.Fits →
      (∀ name, dropped name → name ∈ SourceFile.optionalFields) →
      SourceFile.ofJson (f.toJson.without dropped) = .ok (f.withDefaults dropped) := by
  refine ⟨survives_of_readBack fun _ ↦ Finding.ofJson_toJson,
    survives_of_readBack fun _ ↦ FileAnalysis.ofJson_toJson,
    survives_of_readBack fun i _ ↦ Issue.ofJson_toJson i,
    survives_of_readBack fun _ ↦ SourceFile.ofJson_toJson,
    survives_of_readBack fun _ ↦ ReviewConfig.ofJson_toJson, ?_, ?_⟩
  · exact fun c omitted h ↦ ReviewConfig.ofJson_formWithout h omitted
  · exact fun f dropped h hdropped ↦ SourceFile.ofJson_without h hdropped

/-- A finding at a position, a configuration without its bounds on the prompt and without the switch
of its workers, and a changed file without its patch. -/
theorem records_survive_json_omitted :
    let finding : Finding := ⟨.crossSiteScripting, "innerHTML", .position 3 (Nat.pow 2 64 - 1), .high,
      .high, .medium, some "CWE-79", "xss"⟩
    let config : ReviewConfig :=
      { ReviewConfig.default with prompt := ⟨1, 1, 1⟩, parallel := ⟨false, some 3⟩ }
    let omitted : Omitted := ⟨(· == "prompt"), fun name setting ↦
      name == "parallel" && setting == "enabled"⟩
    let file : SourceFile := ⟨"a.js", .modified, some "x", some "+x", 1, 0⟩
    finding.Fits ∧ Finding.ofJson finding.toJson = .ok finding ∧ config.Fits ∧
      ReviewConfig.ofJson (config.formWithout omitted) =
        .ok { ReviewConfig.default with parallel := ⟨true, some 3⟩ } ∧
      file.Fits ∧
      SourceFile.ofJson (file.toJson.without (· == "patch")) = .ok { file with patch := none } := by
  intro finding config omitted file
  obtain ⟨hfinding, -, -, -, -, hconfig, hfile⟩ := records_survive_json
  have hposition : finding.Fits := ⟨by decide, by decide⟩
  have hnumbers : config.Fits := {
    prompt := ⟨by decide, by decide, by decide⟩
    parallel := fun n hn ↦ by
      obtain rfl := Option.some.inj hn
      decide
    scoring := show 10 < Nat.pow 2 32 by decide }
  have hcounts : file.Fits := ⟨by decide, by decide⟩
  refine ⟨hposition, hfinding.readBack finding hposition, hnumbers,
    hconfig config omitted hnumbers, hcounts, hfile file (· == "patch") hcounts ?_⟩
  intro name hname
  obtain rfl := beq_iff_eq.mp hname
  decide

end ChangeReview
