import ChangeReview.Proofs.Run.Provenance
import ChangeReview.Proofs.Scan.Breakdown

/-!
# Files are scanned apart from each other

The file analyses of a run that does not fail are those of its eligible files, one for each and in
their order. Each is settled by its own file, so whatever happens to one file leaves the analyses of
the others alone, and it does not matter how many files are scanned at once and by what threads, as
long as their pools collect what they do by position.
-/

namespace ChangeReview.Run

open Scan

/-- What stands for a file among the analyses: the result of its scan, or an empty analysis in its
name when the scan breaks off, as it does when the catalog does at any node of its tree. -/
structure IsEntry (scanner : Scanner) (f : SourceFile) (a : FileAnalysis) : Prop where
  filename : a.filename = f.filename
  scanned : ∀ content r, f.content = some content →
    scanner.scan content f.filename = .ok r → a = r
  brokeOff : ∀ content fault, f.content = some content →
    scanner.scan content f.filename = .error fault → a = .empty f.filename
  faulty : ∀ content tree n fault, f.content = some content →
    scanner.tree? content f.filename = some tree → n ∈ tree.preorder →
    scanner.catalog.evaluate content f.filename n = .error fault → a = .empty f.filename

theorem scanFile_of_ok {scanner : Scanner} {f : SourceFile} {r : FileAnalysis}
    (h : scanner.scan (f.content.getD "") f.filename = .ok r) : scanFile scanner f = r := by
  rw [scanFile, h]

theorem scanFile_of_error {scanner : Scanner} {f : SourceFile} {fault : Fault}
    (h : scanner.scan (f.content.getD "") f.filename = .error fault) :
    scanFile scanner f = .empty f.filename := by
  rw [scanFile, h]

theorem filename_scanFile (scanner : Scanner) (f : SourceFile) :
    (scanFile scanner f).filename = f.filename := by
  cases h : scanner.scan (f.content.getD "") f.filename with
  | ok r =>
    rw [scanFile_of_ok h]
    exact Scanner.filename_of_scan h
  | error fault =>
    rw [scanFile_of_error h]
    rfl

/-- Scanning a file gives the analysis that stands for it. -/
theorem isEntry_scanFile (scanner : Scanner) (f : SourceFile) :
    IsEntry scanner f (scanFile scanner f) where
  filename := filename_scanFile scanner f
  scanned content r hcontent h := by
    apply scanFile_of_ok
    rwa [hcontent, Option.getD_some]
  brokeOff content fault hcontent h := by
    apply scanFile_of_error
    rwa [hcontent, Option.getD_some]
  faulty content tree n fault hcontent htree hn hfault := by
    obtain ⟨fault', h⟩ := scanner.scan_breaks_iff content f.filename |>.mpr
      ⟨tree, htree, n, hn, fault, hfault⟩
    apply scanFile_of_error
    rwa [hcontent, Option.getD_some]

/-- Only what a scanner makes of the file itself matters to its analysis. -/
theorem scanFile_congr {s s' : Scanner} {f : SourceFile} (hcontent : f.content.isSome)
    (h : ∀ content, f.content = some content →
      s'.scan content f.filename = s.scan content f.filename) : scanFile s' f = scanFile s f := by
  obtain ⟨content, hsome⟩ := Option.isSome_iff_exists.mp hcontent
  rw [scanFile, scanFile, hsome, Option.getD_some, h content hsome]

theorem forall₂_isEntry (scanner : Scanner) (files : List SourceFile) :
    List.Forall₂ (IsEntry scanner) files (files.map (scanFile scanner)) := by
  rw [List.forall₂_map_right_iff, List.forall₂_same]
  exact fun f _ ↦ isEntry_scanFile scanner f

/-- Scanned without a pool, on a pool of the run or on the shared one, also when the run is refused
its own, the files have their analyses in their order. -/
theorem scanFiles_eq_map (threads : Threads) (scanner : Scanner) (parallel : ParallelConfig)
    (files : List SourceFile) :
    scanFiles threads scanner parallel files = files.map (scanFile scanner) := by
  unfold scanFiles
  split
  · rfl
  · split
    · next pool _ => exact pool.map_eq (scanFile scanner) files
    -- its own pool is refused, or was not asked for
    · exact threads.shared.map_eq (scanFile scanner) files
    · exact threads.shared.map_eq (scanFile scanner) files

theorem eligible_eq_filter (config : ScannerConfig) (files : List SourceFile) :
    eligible config files = files.filter fun f ↦
      f.status ≠ .removed ∧ f.content.isSome ∧ config.isSourceFile f.filename := by
  apply List.filter_congr
  intro f _
  simp [isEligible, Bool.and_assoc]

theorem isSome_content_of_mem_eligible {config : ScannerConfig} {files : List SourceFile}
    {f : SourceFile} (h : f ∈ eligible config files) : f.content.isSome := by
  have heligible := (List.mem_filter.mp h).2
  simp only [isEligible, Bool.and_eq_true] at heligible
  exact heligible.1.2

section

variable (threads : Threads) (scanner : Scanner) (config : ReviewConfig) (model : Model)
  (request : Request) (context : PhaseContext)

/-- The file analyses of a run that does not fail. -/
theorem fileAnalyses_of_status_ne
    (h : (analyze threads scanner config model request context).outcome.status ≠ .failed) :
    (analyze threads scanner config model request context).outcome.fileAnalyses =
      (eligible config.scanner request.files).map (scanFile scanner) := by
  obtain ⟨name, hname⟩ := (status_analyze_ne_iff threads scanner config model request context).mp h
  rw [fileAnalyses_analyze threads scanner config model request context hname, analysesOf,
    scanFiles_eq_map]

/-- A run depends neither on the threads nor on how many of them it is to use. -/
theorem analyze_parallel (threads' : Threads) (parallel : ParallelConfig) :
    analyze threads' scanner { config with parallel } model request context =
      analyze threads scanner config model request context := by
  simp only [analyze, body, scanFiles_eq_map]
  rfl

/-- The analyses of a run that does not fail stand for the eligible files, in their order. Whatever
the threads of the machine and however many files are scanned at once, the run is the same. When some of the files are exchanged for any
others, or the scanner for one that treats only those files differently, the analyses that stand for
the other files are the same, before and after those of the exchanged ones. -/
theorem analyze_isolates_files
    (h : (analyze threads scanner config model request context).outcome.status ≠ .failed) :
    let o := (analyze threads scanner config model request context).outcome
    List.Forall₂ (IsEntry scanner)
      (request.files.filter fun f ↦
        f.status ≠ .removed ∧ f.content.isSome ∧ config.scanner.isSourceFile f.filename)
      o.fileAnalyses ∧
    (∀ threads' parallel, analyze threads' scanner { config with parallel } model request context =
      analyze threads scanner config model request context) ∧
    ∀ before changed after, request.files = before ++ changed ++ after →
      ∃ first own last, o.fileAnalyses = first ++ own ++ last ∧
        List.Forall₂ (IsEntry scanner) (eligible config.scanner before) first ∧
        List.Forall₂ (IsEntry scanner) (eligible config.scanner changed) own ∧
        List.Forall₂ (IsEntry scanner) (eligible config.scanner after) last ∧
        ∀ (threads' : Threads) (scanner' : Scanner) (parallel : ParallelConfig) (model' : Model)
          (changed' : List SourceFile) (context' : PhaseContext),
          (∀ f ∈ before ++ after, ∀ content, f.content = some content →
            scanner'.scan content f.filename = scanner.scan content f.filename) →
          let o' := (analyze threads' scanner' { config with parallel } model'
            { request with files := before ++ changed' ++ after } context').outcome
          o'.status ≠ .failed →
            ∃ own', o'.fileAnalyses = first ++ own' ++ last ∧
              List.Forall₂ (IsEntry scanner') (eligible config.scanner changed') own' := by
  intro o
  have hfiles := fileAnalyses_of_status_ne threads scanner config model request context h
  refine ⟨?_, analyze_parallel threads scanner config model request context, ?_⟩
  · rw [hfiles, ← eligible_eq_filter]
    exact forall₂_isEntry scanner _
  intro before changed after hsplit
  have hparts (files : List SourceFile) := forall₂_isEntry scanner (eligible config.scanner files)
  refine ⟨_, _, _, ?_, hparts before, hparts changed, hparts after, ?_⟩
  · rw [hfiles, hsplit, eligible, List.filter_append, List.filter_append, List.map_append,
      List.map_append]
    rfl
  intro threads' scanner' parallel model' changed' context' hagree o' hstatus
  -- the analysis of a file outside the exchanged part depends on its own scan alone
  have hsame {files : List SourceFile} (hsub : files ⊆ before ++ after) :
      (eligible config.scanner files).map (scanFile scanner') =
        (eligible config.scanner files).map (scanFile scanner) := by
    apply List.map_congr_left
    intro f hf
    exact scanFile_congr (isSome_content_of_mem_eligible hf)
      (hagree f (hsub (List.mem_filter.mp hf).1))
  refine ⟨_, ?_, forall₂_isEntry scanner' (eligible config.scanner changed')⟩
  rw [fileAnalyses_of_status_ne _ _ _ _ _ _ hstatus]
  show (eligible config.scanner (before ++ changed' ++ after)).map (scanFile scanner') = _
  rw [eligible, List.filter_append, List.filter_append, List.map_append, List.map_append]
  exact congrArg₂ (· ++ ·) (congrArg₂ (· ++ ·) (hsame (List.subset_append_left before after)) rfl)
    (hsame (List.subset_append_right before after))

end

/-- A test that breaks off at the root of one script costs the findings of that script alone, on a
machine that refuses the run a pool of its own, as it does when the files are scanned one by one. -/
theorem analyze_isolates_broken_test :
    let fragile : CatalogEntry := ⟨"fragile", .codeInjection, .low, "CWE-0", [⟨"program",
      fun _ source ↦ if source = "boom" then .error ⟨"catalog predicate fault"⟩ else .ok true⟩]⟩
    let scanner : Scanner := ⟨fun _ _ ↦ some (.mk "program" true none ⟨0, 0⟩ "" []), [fragile]⟩
    let request : Request := ⟨[], [⟨"a.js", .added, some "boom", none, 1, 0⟩,
      ⟨"b.js", .added, some "x", none, 1, 0⟩], none⟩
    let threads : Threads := ⟨.halves, 4, fun _ ↦ .error "no more threads"⟩
    let config : ReviewConfig := { ReviewConfig.default with parallel := ⟨true, some 3⟩ }
    let model := Model.constant (.ok "oracle") (.reply "no")
    let e := analyze threads scanner config model request none
    let o := e.outcome
    o.status ≠ .failed ∧
      analyze threads scanner { config with parallel := .sequential } model request none = e ∧
      ∃ b, o.fileAnalyses = [.empty "a.js", b] ∧ scanner.scan "x" "b.js" = .ok b ∧
        b.findings.map (·.pattern) = ["fragile"] := by
  intro fragile scanner request threads config model e o
  have hstatus : o.status ≠ .failed := (status_analyze_ne_iff _ _ _ _ _ _).mpr ⟨_, rfl⟩
  obtain ⟨hentries, hparallel, -⟩ :=
    analyze_isolates_files threads scanner config model request none hstatus
  obtain ⟨a, rest, ha, hrest, hfiles⟩ := List.forall₂_cons_left_iff.mp hentries
  obtain ⟨b, none, hb, hnone, hcons⟩ := List.forall₂_cons_left_iff.mp hrest
  obtain rfl := List.forall₂_nil_left_iff.mp hnone
  have hscan : ∃ r, scanner.scan "x" "b.js" = .ok r ∧ r.findings.map (·.pattern) = ["fragile"] :=
    ⟨_, by with_unfolding_all rfl, by with_unfolding_all rfl⟩
  obtain ⟨r, hr, hpattern⟩ := hscan
  obtain rfl := hb.scanned "x" r rfl hr
  obtain rfl := ha.brokeOff "boom" ⟨"catalog predicate fault"⟩ rfl (by with_unfolding_all rfl)
  exact ⟨hstatus, hparallel threads .sequential, b, by rw [hfiles, hcons], hr, hpattern⟩

end ChangeReview.Run
