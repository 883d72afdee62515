import ChangeReview.Severity

/-!
# Findings

What a scan reports: the class of a vulnerability, where it sits and how bad it is, and for a whole
file the findings together with its measures.
-/

namespace ChangeReview

/-- The classes of vulnerability that a scan can report. -/
inductive VulnerabilityClass where
  | sqlInjection
  | commandInjection
  | crossSiteScripting
  | hardcodedCredentials
  | weakRandomness
  | prototypePollution
  | insecureDeserialization
  | codeInjection
  | informationDisclosure
  | insecureTransport
  | weakCryptography
  deriving DecidableEq, Repr, Inhabited

namespace VulnerabilityClass

def all : List VulnerabilityClass := [
  .sqlInjection, .commandInjection, .crossSiteScripting, .hardcodedCredentials, .weakRandomness,
  .prototypePollution, .insecureDeserialization, .codeInjection, .informationDisclosure,
  .insecureTransport, .weakCryptography]

/-- The name shown to people, which is also the name in records. -/
def label : VulnerabilityClass → String
  | .sqlInjection => "SQL Injection"
  | .commandInjection => "Command Injection"
  | .crossSiteScripting => "Cross-Site Scripting (XSS)"
  | .hardcodedCredentials => "Hardcoded Credentials"
  | .weakRandomness => "Weak Random Number Generation"
  | .prototypePollution => "Prototype Pollution"
  | .insecureDeserialization => "Insecure Deserialization"
  | .codeInjection => "Code Injection"
  | .informationDisclosure => "Information Disclosure"
  | .insecureTransport => "Insecure Communication"
  | .weakCryptography => "Weak Cryptography"

def toJson (c : VulnerabilityClass) : Json.Value := .string c.label

def ofJson : Json.Value → Record.Read VulnerabilityClass := Record.plainVariant all label

theorem mem_all (c : VulnerabilityClass) : c ∈ all := by cases c <;> decide

theorem ofJson_toJson (c : VulnerabilityClass) : ofJson c.toJson = .ok c := by cases c <;> rfl

end VulnerabilityClass

/-- Where a finding sits in its file. -/
inductive Location where
  /-- Line from one, column from zero. -/
  | position (line column : Nat)
  /-- In words, when no single position applies. -/
  | described (text : String)
  | unknown
  deriving DecidableEq, Repr, Inhabited

namespace Location

open Record.Fields

/-- The line of a position. -/
def line? : Location → Option Nat
  | .position line _ => some line
  | _ => none

/-- The location in words. -/
def text : Location → String
  | .position line column => "Line " ++ toString line ++ ", Column " ++ toString column
  | .described text => text
  | .unknown => "Location unknown"

/-- Line and column as one object; a description as one string; nothing but the name otherwise. -/
def toJson : Location → Json.Value
  | .position line column => .ofPairs [
      ("position", .ofPairs [("line", .ofNat line), ("column", .ofNat column)])]
  | .described text => .ofPairs [("described", .string text)]
  | .unknown => .string "unknown"

/-- The names of the three forms. -/
def variants : List String := ["position", "described", "unknown"]

/-- Line and column. -/
def positionFields : Record.Fields Location :=
  Location.position <$> required "line" Record.nat64 <*> required "column" Record.nat64

/-- The data of a form, by its name. -/
def ofVariant (name : String) (data : Option Json.Value) : Record.Read Location :=
  match name with
  | "position" =>
    match data with
    | some (.object members) => positionFields.ofMembers members
    | some v => .error (.wrongType (.value v) "struct variant")
    | none => .error (.wrongType .unitVariant "struct variant")
  | "described" =>
    match data with
    | some v => (Record.string v).map .described
    | none => .error (.wrongType .unitVariant "newtype variant")
  | "unknown" =>
    match data with
    | none | some .null => .ok .unknown
    | some v => .error (.wrongType (.value v) "unit")
  | name => .error (.unknownVariant name variants)

def ofJson (v : Json.Value) : Record.Read Location := do
  let (name, data) ← Record.variant v
  ofVariant name data

end Location

/-- One potential vulnerability. -/
structure Finding where
  vulnerability : VulnerabilityClass
  description : String
  location : Location
  severity : Severity
  confidence : Confidence
  exploitability : Exploitability
  cwe : Option String
  /-- Name of the rule that matched. -/
  pattern : String
  deriving DecidableEq, Repr, Inhabited

namespace Finding

open Record.Fields

def toJson (f : Finding) : Json.Value := .ofPairs [
  ("class", f.vulnerability.toJson),
  ("description", .string f.description),
  ("location", f.location.toJson),
  ("severity", f.severity.toJson),
  ("confidence", f.confidence.toJson),
  ("exploitability", f.exploitability.toJson),
  ("cwe", .ofOption (f.cwe.map .string)),
  ("pattern", .string f.pattern)]

def fields : Record.Fields Finding :=
  Finding.mk
    <$> required "class" VulnerabilityClass.ofJson
    <*> required "description" Record.string
    <*> required "location" Location.ofJson
    <*> required "severity" Severity.ofJson
    <*> required "confidence" Confidence.ofJson
    <*> required "exploitability" Exploitability.ofJson
    <*> maybe "cwe" Record.string
    <*> required "pattern" Record.string

def ofJson : Json.Value → Record.Read Finding :=
  Record.Fields.record "VulnerabilityFinding" fields

end Finding

/-- Counts taken from a syntax tree and its text. -/
structure CodeMetrics where
  functions : Nat
  loops : Nat
  branches : Nat
  nestingDepth : Nat
  linesOfCode : Nat
  deriving DecidableEq, Repr, Inhabited

namespace CodeMetrics

open Record.Fields

def zero : CodeMetrics := ⟨0, 0, 0, 0, 0⟩

def toJson (m : CodeMetrics) : Json.Value := .ofPairs [
  ("functions", .ofNat m.functions),
  ("loops", .ofNat m.loops),
  ("branches", .ofNat m.branches),
  ("nesting_depth", .ofNat m.nestingDepth),
  ("lines_of_code", .ofNat m.linesOfCode)]

def fields : Record.Fields CodeMetrics :=
  CodeMetrics.mk
    <$> required "functions" Record.nat32
    <*> required "loops" Record.nat32
    <*> required "branches" Record.nat32
    <*> required "nesting_depth" Record.nat32
    <*> required "lines_of_code" Record.nat32

def ofJson : Json.Value → Record.Read CodeMetrics := Record.Fields.record "CodeMetrics" fields

end CodeMetrics

/-- What a scan found in one file. -/
structure FileAnalysis where
  filename : String
  findings : List Finding
  complexity : Nat
  metrics : CodeMetrics
  /-- Whether a syntax tree was built. -/
  parsed : Bool
  deriving DecidableEq, Repr, Inhabited

namespace FileAnalysis

open Record.Fields

/-- The record of a file about which nothing is known. -/
def empty (filename : String) : FileAnalysis := ⟨filename, [], 0, .zero, false⟩

def hasFindings (a : FileAnalysis) : Bool := !a.findings.isEmpty

/-- Number of findings of a severity. -/
def countAt (a : FileAnalysis) (severity : Severity) : Nat :=
  a.findings.countP (·.severity = severity)

def toJson (a : FileAnalysis) : Json.Value := .ofPairs [
  ("filename", .string a.filename),
  ("vulnerabilities", .array (a.findings.map Finding.toJson)),
  ("complexity", .ofNat a.complexity),
  ("metrics", a.metrics.toJson),
  ("parsed", .bool a.parsed)]

def fields : Record.Fields FileAnalysis :=
  FileAnalysis.mk
    <$> required "filename" Record.string
    <*> required "vulnerabilities" (Record.list Finding.ofJson)
    <*> required "complexity" Record.nat32
    <*> required "metrics" CodeMetrics.ofJson
    <*> required "parsed" Record.bool

def ofJson : Json.Value → Record.Read FileAnalysis := Record.Fields.record "FileAnalysis" fields

end FileAnalysis

end ChangeReview
