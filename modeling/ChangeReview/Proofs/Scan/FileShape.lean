import Mathlib.Data.List.Forall2
import ChangeReview.Proofs.Scan.Sighting
import ChangeReview.Proofs.Text.Endings
import ChangeReview.Scan.FileScan

/-!
# The shape of a file analysis

A scan reports a file with a tree or a file without one, and never a mixture: the catalog's findings
with the measures of the tree, or the fallback rules' findings without measures, and the heuristics'
findings behind them in both cases. The file name decides which grammars are tried, and otherwise
only shows up as a name.
-/

namespace ChangeReview.Scan

open Syntax

/-! ## Which trees are walked -/

/-- A file name with one of some extensions, in any ASCII case. -/
def HasExtension (filename : String) (extensions : List String) : Prop :=
  ∃ ext, Path.extension? filename = some ext ∧ Text.loweredAscii ext ∈ extensions

theorem isSome_ofFilename?_iff {filename : String} :
    (Dialect.ofFilename? filename).isSome ↔
      HasExtension filename ["js", "mjs", "cjs", "jsx", "ts", "mts", "cts", "tsx"] := by
  rw [Dialect.ofFilename?, Option.isSome_bind, Option.any_eq_true]
  refine exists_congr fun ext ↦ and_congr_right fun _ ↦ ?_
  unfold Dialect.ofExtension?
  generalize Text.loweredAscii ext = e
  grind

namespace Scanner

variable {s : Scanner} {content filename : String} {tree : Node}

/-- The analysis of a file whose tree is walked to the end. -/
theorem scan_of_tree? (htree : s.tree? content filename = some tree)
    (h : s.catalog.Answers content tree) :
    let tally := Tally.zero.visitAll (visits 0 tree)
    s.scan content filename = .ok
      { filename
        findings := (s.catalog.sightings content tree).map (·.finding filename) ++
          heuristicFindings content
        complexity := tally.complexity
        metrics := tally.metrics content
        parsed := true } := by
  rw [scan, htree]
  show s.scanTree content filename tree = _
  rw [scanTree, h.walk_eq]
  rfl

/-- A scan that gives an analysis has walked the tree to the end. -/
theorem answers_of_scan {a : FileAnalysis} (htree : s.tree? content filename = some tree)
    (h : s.scan content filename = .ok a) : s.catalog.Answers content tree := by
  rw [scan, htree] at h
  replace h : s.scanTree content filename tree = .ok a := h
  rw [scanTree] at h
  cases hwalk : walk s.catalog content filename tree with
  | error fault =>
    rw [hwalk] at h
    cases h
  | ok walked => exact Catalog.answers_of_walk hwalk

end Scanner

/-! ## Records of one kind -/

/-- The same finding under two file names, which may show at the end of the description. -/
structure SameFinding (filename filename' : String) (f f' : Finding) : Prop where
  others : f' = { f with description := f'.description }
  description : f'.description = f.description ∨
    ∃ text, f.description = text ++ filename ∧ f'.description = text ++ filename'

section

variable {s : Scanner} {content filename filename' : String}

theorem SameFinding.refl (f : Finding) : SameFinding filename filename' f f := ⟨rfl, .inl rfl⟩

end

end ChangeReview.Scan
