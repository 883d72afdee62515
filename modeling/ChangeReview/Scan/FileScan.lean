import ChangeReview.Scan.TextRule
import ChangeReview.Scan.Walk
import ChangeReview.Syntax.Dialect

/-!
# Scanning a file

A file that some grammar of its dialect accepts is walked with the catalog; any other file gets the
fallback rules. The heuristics come last in both cases. Only a faulty test of the catalog can break
a scan off.
-/

namespace ChangeReview.Scan

open Syntax

/-- What a scanner works with. -/
structure Scanner where
  grammars : Grammars
  catalog : Catalog

namespace Scanner

/-- The tree to walk, if the file name has a dialect and one of its grammars accepts. -/
def tree? (s : Scanner) (content filename : String) : Option Node := do
  let dialect ← Dialect.ofFilename? filename
  let (tree, _) ← firstAccepted? s.grammars content dialect.candidates
  some tree

/-- The analysis of a file with a tree. -/
def scanTree (s : Scanner) (content filename : String) (tree : Node) :
    Except Fault FileAnalysis := do
  let (findings, tally) ← walk s.catalog content filename tree
  .ok { filename
        findings := findings ++ heuristicFindings content
        complexity := tally.complexity
        metrics := tally.metrics content
        parsed := true }

/-- The analysis of a file without a tree. -/
def scanText (content filename : String) : FileAnalysis :=
  { FileAnalysis.empty filename with
    findings := fallbackFindings content filename ++ heuristicFindings content }

/-- Scan one file. -/
def scan (s : Scanner) (content filename : String) : Except Fault FileAnalysis :=
  match s.tree? content filename with
  | some tree => s.scanTree content filename tree
  | none => .ok (scanText content filename)

end Scanner

end ChangeReview.Scan
