import ChangeReview.Finding

/-!
# Recommendations

Lines of advice made from findings: an urgency line for the critical ones and one for the high
ones, then one line per class in the order in which the classes first appear, five lines at most.
-/

namespace ChangeReview.Recommendation

/-- The most lines given. -/
def maximum : Nat := 5

/-- The advice for a class. -/
def forClass : VulnerabilityClass → String
  | .sqlInjection =>
    "Use parameterized queries or a query builder instead of string interpolation in SQL."
  | .commandInjection =>
    "Avoid passing user input to shell commands; use execFile with an argument list."
  | .crossSiteScripting => "Sanitize markup before rendering and prefer textContent over innerHTML."
  | .hardcodedCredentials =>
    "Move credentials to environment variables or a secrets manager and rotate exposed keys."
  | .weakRandomness =>
    "Use crypto.randomBytes() or crypto.randomUUID() for security-sensitive values."
  | .prototypePollution =>
    "Validate object keys and reject __proto__, constructor and prototype in merged input."
  | .insecureDeserialization =>
    "Validate parsed input against a schema and never eval untrusted data."
  | .codeInjection => "Remove eval() and Function() calls on dynamic input."
  | .informationDisclosure => "Remove sensitive values from log statements."
  | .insecureTransport => "Use HTTPS for all external requests."
  | .weakCryptography => "Replace MD5 and SHA-1 with SHA-256 or stronger algorithms."

/-- The urgency line of a severity, when it has one. -/
def urgency? (severity : Severity) (count : Nat) : Option String :=
  match severity with
  | .critical =>
    some ("Address " ++ toString count ++ " critical security finding(s) before merging.")
  | .high => some ("Review " ++ toString count ++ " high-severity security finding(s) promptly.")
  | .medium | .low => none

/-- The urgency lines of a list of findings. -/
def urgencies (findings : List Finding) : List String :=
  [Severity.critical, Severity.high].filterMap fun severity =>
    let count := findings.countP (·.severity = severity)
    if 0 < count then urgency? severity count else none

/-- The elements of a list, each at its first place only. `seen` holds those met before. -/
def firstSeen {α : Type} [DecidableEq α] (seen : List α) : List α → List α
  | [] => []
  | a :: rest => if a ∈ seen then firstSeen seen rest else a :: firstSeen (a :: seen) rest

/-- The lines for a list of findings. -/
def ofFindings (findings : List Finding) : List String :=
  (urgencies findings ++
    (firstSeen [] (findings.map (·.vulnerability))).map forClass).take maximum

theorem length_ofFindings_le (findings : List Finding) :
    (ofFindings findings).length ≤ maximum := by
  simp only [ofFindings, List.length_take]
  omega

end ChangeReview.Recommendation
