import ChangeReview.Finding
import ChangeReview.Syntax.Node

/-!
# The catalog of patterns

A catalog is a list of entries; an entry says what it reports and has patterns, each with the kind
of node it applies to and a test of the node. Every pattern that holds at a node gives a finding.
A test may break off with a fault, which ends the scan of the file.
-/

namespace ChangeReview.Scan

open Syntax

/-- Why a scan broke off. -/
structure Fault where
  message : String
  deriving DecidableEq, Repr

/-- A test of a node in a source text. -/
abbrev NodeTest := Node → String → Except Fault Bool

/-- A kind of node and a test. -/
structure NodePattern where
  kind : String
  test : NodeTest

/-- What is reported, and where. -/
structure CatalogEntry where
  key : String
  vulnerability : VulnerabilityClass
  severity : Severity
  cwe : String
  patterns : List NodePattern

abbrev Catalog := List CatalogEntry

/-- The description of a class of vulnerability. -/
def describe (c : VulnerabilityClass) (filename : String) : String :=
  match c with
  | .sqlInjection => "Potential SQL injection vulnerability found. Use parameterized queries."
  | .commandInjection => "Command injection vulnerability detected. Validate and sanitize inputs."
  | .crossSiteScripting => "XSS vulnerability found. Sanitize user inputs and use safe rendering."
  | .hardcodedCredentials =>
    "Hardcoded credentials detected. Use environment variables or secure vaults."
  | .weakRandomness => "Weak random number generation. Use crypto.randomBytes() for security."
  | .prototypePollution =>
    "Potential prototype pollution vulnerability. Validate object properties."
  | .insecureDeserialization =>
    "Insecure deserialization detected. Validate and sanitize input data."
  | other => other.label ++ " vulnerability detected in " ++ filename

/-- The finding of an entry at a node. Lines count from one. -/
def CatalogEntry.finding (e : CatalogEntry) (filename : String) (n : Node) : Finding where
  vulnerability := e.vulnerability
  description := describe e.vulnerability filename
  location := .position (n.start.row + 1) n.start.column
  severity := e.severity
  confidence := .high
  exploitability := e.severity.defaultExploitability
  cwe := some e.cwe
  pattern := e.key

/-- Whether a pattern holds at a node. The test is made only on nodes of its kind. -/
def NodePattern.holds (p : NodePattern) (source : String) (n : Node) : Except Fault Bool :=
  if p.kind = n.kind then p.test n source else .ok false

/-- The findings of an entry at a node, one for each pattern that holds. -/
def CatalogEntry.evaluate (e : CatalogEntry) (source filename : String) (n : Node) :
    Except Fault (List Finding) := do
  let held ← e.patterns.filterM (·.holds source n)
  .ok (held.map fun _ => e.finding filename n)

/-- The findings of a catalog at a node, entry after entry. -/
def Catalog.evaluate (c : Catalog) (source filename : String) (n : Node) :
    Except Fault (List Finding) := do
  let found ← c.mapM fun e => e.evaluate source filename n
  .ok found.flatten

end ChangeReview.Scan
