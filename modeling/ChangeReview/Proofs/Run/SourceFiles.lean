import ChangeReview.Proofs.Run.Isolation
import ChangeReview.Proofs.Scan.FileShape
import ChangeReview.Proofs.Text.ByteOrder
import ChangeReview.Proofs.Text.Occurrence
import ChangeReview.Proofs.List.Distinct

/-!
# Which files count as source

The extension of a file is read three times: when the file is chosen for the scan, when a grammar is
looked up for it, and when the file types of a run are listed. All three agree, up to the case of
ASCII letters, so a file that is scanned has its type listed, and no other type is.
-/

namespace ChangeReview

open Text Scan

/-- Lowering a text once is enough. -/
theorem loweredAscii_loweredAscii (s : String) :
    loweredAscii (loweredAscii s) = loweredAscii s := by
  simp only [loweredAscii, lowerAscii, String.toList_ofList, List.map_map, Function.comp_def,
    toLower_toLower]

/-- An extension is one of the configured, up to the case of ASCII letters. -/
def ScannerConfig.Lists (c : ScannerConfig) (e : String) : Prop :=
  ∃ known ∈ c.sourceExtensions, eqIgnoringCase known e

namespace ScannerConfig

theorem lists_iff {c : ScannerConfig} {e : String} :
    c.Lists e ↔ loweredAscii e ∈ c.sourceExtensions.map loweredAscii := by
  simp only [Lists, eqIgnoringCase_iff, List.mem_map]

theorem lists_loweredAscii {c : ScannerConfig} {e : String} :
    c.Lists (loweredAscii e) ↔ c.Lists e := by
  rw [lists_iff, lists_iff, loweredAscii_loweredAscii]

theorem isSourceFile_iff {c : ScannerConfig} {filename : String} :
    c.isSourceFile filename ↔ ∃ ext, Path.extension? filename = some ext ∧ c.Lists ext := by
  unfold isSourceFile Lists
  cases Path.extension? filename with
  | none => simp
  | some ext => simp

/-- A file is a source file exactly when its extension in lower case is a configured one. -/
theorem isSourceFile_iff_extension? {c : ScannerConfig} {f : SourceFile} :
    c.isSourceFile f.filename ↔ ∃ e, f.extension? = some e ∧ c.Lists e := by
  simp only [isSourceFile_iff, SourceFile.extension?, Option.map_eq_some_iff]
  constructor
  · rintro ⟨ext, hext, hlists⟩
    exact ⟨_, ⟨ext, hext, rfl⟩, lists_loweredAscii.mpr hlists⟩
  · rintro ⟨_, ⟨ext, hext, rfl⟩, hlists⟩
    exact ⟨ext, hext, lists_loweredAscii.mp hlists⟩

/-- Whatever a grammar can be found for is a source file by default. -/
theorem isSourceFile_of_ofFilename? {filename : String}
    (h : (Syntax.Dialect.ofFilename? filename).isSome) : default.isSourceFile filename := by
  obtain ⟨ext, hext, hknown⟩ := isSome_ofFilename?_iff.mp h
  refine isSourceFile_iff.mpr ⟨ext, hext, lists_iff.mpr ?_⟩
  have hincluded : ["js", "mjs", "cjs", "jsx", "ts", "mts", "cts", "tsx"] ⊆
      default.sourceExtensions.map loweredAscii := by decide
  exact hincluded hknown

end ScannerConfig

namespace Run

/-! ## The file types of a run -/

theorem mem_codeFileTypes {files : List SourceFile} {e : String} :
    e ∈ codeFileTypes files ↔ ∃ f ∈ files, f.extension? = some e := by
  rw [codeFileTypes, List.mem_mergeSort, List.mem_eraseDups, List.mem_filterMap]

/-- Sorted and without repetitions, the file types increase. -/
theorem pairwise_codeFileTypes (files : List SourceFile) :
    (codeFileTypes files).Pairwise fun a b ↦ utf8 a < utf8 b := by
  have hsorted : (codeFileTypes files).Pairwise fun a b ↦ decide (a ≤ b) = true :=
    List.pairwise_mergeSort (fun _ _ _ hab hbc ↦ by
      rw [decide_eq_true_eq] at *
      exact String.le_trans hab hbc) (fun a b ↦ by simpa using String.le_total a b) _
  have hdistinct : (codeFileTypes files).Nodup :=
    (List.mergeSort_perm _ _).nodup_iff.mpr (nodup_eraseDups _)
  refine hsorted.imp₂ (fun a b hle hne ↦ ?_) hdistinct
  exact lt_iff_utf8_lt.mp (Std.lt_of_le_of_ne (of_decide_eq_true hle) hne)

/-- Metadata that tell what was scanned: the files chosen by their extensions. -/
structure Describes (config : ScannerConfig) (files : List SourceFile) (analyses : List FileAnalysis)
    (m : Metadata) : Prop where
  filesAnalyzed : m.filesAnalyzed = files.length
  analyses_length : analyses.length = files.length
  increasing : m.codeFileTypes.Pairwise fun a b ↦ utf8 a < utf8 b
  mem_iff : ∀ e, e ∈ m.codeFileTypes ↔
    ∃ f ∈ files, ∃ ext, Path.extension? f.filename = some ext ∧ loweredAscii ext = e
  configured : ∀ e ∈ m.codeFileTypes, config.Lists e
  nonempty_iff : m.codeFileTypes ≠ [] ↔ 0 < m.filesAnalyzed
  syntax_iff : m.syntaxAnalysisPerformed ↔ ∃ a ∈ analyses, a.parsed

theorem exists_extension_of_mem_eligible {config : ScannerConfig} {files : List SourceFile}
    {f : SourceFile} (h : f ∈ eligible config files) :
    ∃ e, f.extension? = some e ∧ config.Lists e := by
  have heligible := (List.mem_filter.mp h).2
  simp only [isEligible, Bool.and_eq_true] at heligible
  exact ScannerConfig.isSourceFile_iff_extension?.mp heligible.2

theorem describes_finish (config : ReviewConfig) (request : Request) (name : String) {o : Outcome}
    (scanner : Scanner)
    (h : o.fileAnalyses = (eligible config.scanner request.files).map (scanFile scanner)) :
    Describes config.scanner (eligible config.scanner request.files) o.fileAnalyses
      (finish config request (eligible config.scanner request.files) name o).metadata where
  filesAnalyzed := by
    show o.fileAnalyses.length = _
    rw [h, List.length_map]
  analyses_length := by rw [h, List.length_map]
  increasing := pairwise_codeFileTypes _
  mem_iff e := by
    show e ∈ codeFileTypes _ ↔ _
    rw [mem_codeFileTypes]
    simp only [SourceFile.extension?, Option.map_eq_some_iff]
  configured e he := by
    obtain ⟨f, hf, hext⟩ := mem_codeFileTypes.mp he
    obtain ⟨e', he', hlists⟩ := exists_extension_of_mem_eligible hf
    rw [hext] at he'
    rwa [Option.some.inj he']
  nonempty_iff := by
    show codeFileTypes _ ≠ [] ↔ 0 < o.fileAnalyses.length
    rw [h, List.length_map, List.length_pos_iff]
    constructor
    · rintro htypes hnone
      exact htypes (by simp [hnone, codeFileTypes])
    · intro hfiles
      obtain ⟨f, hf⟩ := List.exists_mem_of_ne_nil _ hfiles
      obtain ⟨e, he, -⟩ := exists_extension_of_mem_eligible hf
      exact List.ne_nil_of_mem (mem_codeFileTypes.mpr ⟨f, hf, he⟩)
  syntax_iff := by
    show o.fileAnalyses.any (·.parsed) = true ↔ _
    rw [List.any_eq_true]

/-- A file name is that of a source file exactly when its extension in lower case is one of the
configured, up to the case of ASCII letters. The metadata of a run that does not fail tell of the
files that are chosen in this way: how many they are, which is also how many analyses there are;
their extensions in lower case, in strictly increasing order of bytes, all of them configured, and
none exactly when no file was analyzed; and whether any of them was parsed. Every file name for which
a grammar is found is that of a source file by default. -/
theorem analyze_describes_source_files :
    (∀ (c : ScannerConfig) (f : SourceFile),
      c.isSourceFile f.filename ↔ ∃ e, f.extension? = some e ∧ c.Lists e) ∧
    (∀ threads scanner config model request context,
      let o := (analyze threads scanner config model request context).outcome
      o.status ≠ .failed →
        Describes config.scanner
          (request.files.filter fun f ↦
            f.status ≠ .removed ∧ f.content.isSome ∧ config.scanner.isSourceFile f.filename)
          o.fileAnalyses o.metadata) ∧
    ∀ filename, (Syntax.Dialect.ofFilename? filename).isSome →
      ScannerConfig.default.isSourceFile filename := by
  refine ⟨fun _ _ ↦ ScannerConfig.isSourceFile_iff_extension?, ?runs,
    fun _ ↦ ScannerConfig.isSourceFile_of_ofFilename?⟩
  intro threads scanner config model request context o hstatus
  obtain ⟨reported, hname⟩ :=
    (status_analyze_ne_iff threads scanner config model request context).mp hstatus
  have houtcome : o = _ := outcome_analyze threads scanner config model request context hname
  have hanalyses (payload : Except ModelPathError Reply.Decoded) :
      (conclude payload (analysesOf threads scanner config request)).fileAnalyses =
        (eligible config.scanner request.files).map (scanFile scanner) := by
    rw [fileAnalyses_conclude, analysesOf, scanFiles_eq_map]
  rw [← eligible_eq_filter, houtcome]
  exact describes_finish config request _ scanner (hanalyses _)

/-- Of five files, one is removed and one has no extension; the others have extensions that are
configured in another case. -/
theorem analyze_describes_mixed_files :
    let scanner : Scanner := ⟨fun _ _ ↦ none, []⟩
    let file (filename : String) (status : FileStatus) : SourceFile :=
      ⟨filename, status, some "x", none, 1, 0⟩
    let config : ReviewConfig := { ReviewConfig.default with scanner := ⟨["Py", "ts"]⟩ }
    let request : Request := ⟨[], [file "b.TS" .added, file "gone.ts" .removed,
      file "README" .modified, file "lib/a.pY" .renamed, file "c.ts" .modified], none⟩
    let model := Model.constant (.ok "oracle") (.reply "no")
    let o := (analyze (.inHalves 4) scanner config model request none).outcome
    o.status ≠ .failed ∧ o.metadata.filesAnalyzed = 3 ∧
      (∀ e, e ∈ o.metadata.codeFileTypes ↔ e = "ts" ∨ e = "py") ∧
      (Syntax.Dialect.ofFilename? "b.TS").isSome ∧ ScannerConfig.default.isSourceFile "b.TS" := by
  intro scanner file config request model o
  obtain ⟨-, hruns, hdialect⟩ := analyze_describes_source_files
  have hstatus : o.status ≠ .failed := (status_analyze_ne_iff _ _ _ _ _ _).mpr ⟨_, rfl⟩
  have hdescribes := hruns _ scanner config _ request none hstatus
  have hchosen : (request.files.filter fun f ↦
      f.status ≠ .removed ∧ f.content.isSome ∧ config.scanner.isSourceFile f.filename) =
        [file "b.TS" .added, file "lib/a.pY" .renamed, file "c.ts" .modified] := by decide +kernel
  rw [hchosen] at hdescribes
  refine ⟨hstatus, hdescribes.filesAnalyzed, fun e ↦ ?types, by decide, hdialect "b.TS" (by decide)⟩
  have hts : Path.extension? "b.TS" = some "TS" ∧ loweredAscii "TS" = "ts" := by decide
  have hpy : Path.extension? "lib/a.pY" = some "pY" ∧ loweredAscii "pY" = "py" := by decide
  have hc : Path.extension? "c.ts" = some "ts" ∧ loweredAscii "ts" = "ts" := by decide
  rw [hdescribes.mem_iff]
  simp only [file, List.mem_cons, List.not_mem_nil, or_false, exists_eq_or_imp, exists_eq_left,
    hts.1, hpy.1, hc.1, Option.some.injEq, exists_eq_left', hts.2, hpy.2, hc.2, eq_comm (a := e)]
  grind

end Run

end ChangeReview
