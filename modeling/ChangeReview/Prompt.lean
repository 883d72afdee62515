import ChangeReview.Config
import ChangeReview.Finding

/-!
# The prompt

The text sent to the model. It shows a summary of the findings, the commit messages, and the first
files with as much of their patches as the limits allow. Content of files is never shown.
-/

namespace ChangeReview.Prompt

/-- The mark after a patch that was cut. -/
def truncationMark : String := "\n... [diff truncated]"

def opening : String :=
  "You are a senior software engineer performing a security-focused code review of a pull " ++
    "request.\n\n"

/-- The form of the answer that is asked for. -/
def responseFormat : String := String.intercalate "\n" [
  "Respond with a single JSON object and nothing else. Do not add any prose before or after it " ++
    "and do not wrap it in markdown code fences. The object must follow this schema:",
  "\x7b",
  "  \"issues\": [",
  "    \x7b",
  "      \"type\": \"readability | logic | security | performance | documentation | testing | " ++
    "improvement\",",
  "      \"title\": \"short title\",",
  "      \"description\": \"what is wrong and how to fix it\",",
  "      \"file\": \"path of the affected file\",",
  "      \"location\": \"line or range, e.g. Line 12\",",
  "      \"severity\": \"critical | high | medium | low\",",
  "      \"cwe\": \"CWE identifier for security issues, otherwise null\",",
  "      \"confidence\": \"high | medium | low\",",
  "      \"exploitability\": \"high | medium | low | none\"",
  "    \x7d",
  "  ],",
  "  \"summary\": \x7b",
  "    \"overview\": \"one paragraph assessment\",",
  "    \"strengths\": [\"...\"],",
  "    \"concerns\": [\"...\"]",
  "  \x7d,",
  "  \"securityScore\": 0-100,",
  "  \"recommendations\": [\"...\"]",
  "\x7d"]

/-! ## Findings -/

/-- Findings of one severity with the names of their files, in file then finding order. -/
def findingsAt (analyses : List FileAnalysis) (severity : Severity) : List (String × Finding) :=
  analyses.flatMap fun a =>
    (a.findings.filter fun f => f.severity = severity).map fun f => (a.filename, f)

/-- The findings from high on, with the names of their files, in file then finding order. -/
def severe (analyses : List FileAnalysis) : List (String × Finding) :=
  (analyses.flatMap fun a => a.findings.map fun f => (a.filename, f)).filter fun p =>
    Severity.high.rank ≤ p.2.severity.rank

/-- The severe findings, the worst first; equals keep their order. -/
def ranked (analyses : List FileAnalysis) : List (String × Finding) :=
  (severe analyses).mergeSort fun a b => b.2.severity.rank ≤ a.2.severity.rank

/-- The line of a highlighted finding. -/
def highlightLine (p : String × Finding) : String :=
  "- [" ++ Text.upperedAscii p.2.severity.name ++ "] " ++ p.2.vulnerability.label ++ " in " ++
    p.1 ++ " (" ++ p.2.location.text ++ "): " ++ p.2.description ++ "\n"

/-- The highlighted findings, or nothing when none is severe. -/
def highlights (analyses : List FileAnalysis) (limit : Nat) : String :=
  match ranked analyses with
  | [] => ""
  | severe => "\nMost severe findings:\n" ++ String.join ((severe.take limit).map highlightLine)

/-- The line of a file with findings. -/
def flaggedLine (a : FileAnalysis) : String :=
  "- " ++ a.filename ++ ": " ++ toString a.findings.length ++ " finding(s)\n"

/-- The summary of all findings, or nothing when there is none. -/
def summary (analyses : List FileAnalysis) (limit : Nat) : String :=
  match analyses.filter FileAnalysis.hasFindings with
  | [] => ""
  | flagged =>
    "## Static analysis summary\n" ++ String.join (flagged.map flaggedLine) ++
      highlights flagged limit ++
      "\nConfirm or refute these findings in your review and look for issues the scanner " ++
      "cannot see.\n\n"

/-! ## Files -/

/-- At most `limit` characters of a text, marked when it was cut. -/
def truncated (text : String) (limit : Nat) : String :=
  let chars := text.toList
  if limit < chars.length then String.ofList (chars.take limit) ++ truncationMark else text

/-- The analysis that goes with a file name: the last of that name. -/
def analysisOf? (analyses : List FileAnalysis) (filename : String) : Option FileAnalysis :=
  analyses.reverse.find? (·.filename == filename)

/-- The scanner's note on a file with findings. -/
def scannerNote (a : FileAnalysis) : String :=
  let critical := (a.findings.filter fun f => f.severity = .critical).map (·.vulnerability.label)
  "Scanner: " ++ toString a.findings.length ++ " finding(s), complexity " ++
    toString a.complexity ++
    (if critical.isEmpty then "" else "; critical: " ++ String.intercalate ", " critical) ++ "\n"

/-- The patch of a file, as far as the limit allows. -/
def patchBlock (patch : Option String) (limit : Nat) : String :=
  match patch with
  | some text =>
    if text.isEmpty then "(no diff available)\n"
    else "```diff\n" ++ truncated text limit ++ "\n```\n"
  | none => "(no diff available)\n"

/-- The section of one file. -/
def fileSection (analyses : List FileAnalysis) (limit : Nat) (f : SourceFile) : String :=
  "\n### " ++ f.filename ++ " (" ++ f.status.name ++ ", +" ++ toString f.additions ++ "/-" ++
    toString f.deletions ++ ")\n" ++
    (match (analysisOf? analyses f.filename).filter FileAnalysis.hasFindings with
      | some a => scannerNote a
      | none => "") ++
    patchBlock f.patch limit

/-- The commit messages, or a word for none. -/
def commits (messages : String) : String :=
  "## Commit messages\n" ++
    (if (Text.trimmed messages).isEmpty then "(none)\n" else Text.trimmedEnd messages ++ "\n")

/-- The whole prompt. -/
def build (messages : String) (files : List SourceFile) (analyses : List FileAnalysis)
    (limits : PromptLimits) : String :=
  opening ++ summary analyses limits.maxHighlighted ++ commits messages ++
    "\n## Changed files (" ++ toString (min files.length limits.maxFiles) ++ " of " ++
    toString files.length ++ ")\n" ++
    String.join ((files.take limits.maxFiles).map (fileSection analyses limits.maxPatchChars)) ++
    "\n## Response format\n" ++ responseFormat ++ "\n"

end ChangeReview.Prompt
