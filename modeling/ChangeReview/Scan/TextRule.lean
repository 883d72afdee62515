import ChangeReview.Finding
import ChangeReview.Text.Folding
import ChangeReview.Text.Search
import ChangeReview.Text.WordCharacter

/-!
# Rules on plain text

Rules that look at the text of a file and not at its syntax. The heuristics run on every file; the
fallback rules run on files without a syntax tree. A rule reports at most one finding per file, at
a location in words.
-/

namespace ChangeReview.Scan

open Text

/-! ## What the rules look for -/

/-- The words that name a secret in a log statement. -/
def secretWords : List (List Char) :=
  ["password".toList, "token".toList, "key".toList, "secret".toList]

/-- A log statement that names a secret on the same line. -/
def logsSecret (s : List Char) : Bool :=
  someSuffix (fun here =>
    match afterFolded? "console.log".toList here with
    | some rest =>
      someSuffix (fun t => secretWords.any fun w => startsFolded w t) (rest.takeWhile (· ≠ '\n'))
    | none => false) s

/-- The hosts that stay on the machine. -/
def loopbackHosts : List (List Char) := ["localhost".toList, "127.0.0.1".toList]

/-- Whether a text starts with a host that stays on the machine, in any ASCII case. -/
def startsLoopback (s : List Char) : Bool :=
  loopbackHosts.any fun host => (s.take host.length).map Char.toLower == host

/-- A plain address whose host is not on the machine. -/
def usesPlainHttp (s : List Char) : Bool :=
  (afterEachFolded "http://".toList 0 s).any (!startsLoopback ·)

/-- The names of weak hash functions. -/
def weakHashes : List (List Char) := ["md5".toList, "sha1".toList]

/-- Whether no word goes on at the start of a text. -/
def wordEnds : List Char → Bool
  | [] => true
  | c :: _ => !isWordCharacter c

/-- A weak hash function as a word of its own. `inWord` tells that the text continues a word. -/
def namesWeakHash (inWord : Bool) : List Char → Bool
  | [] => false
  | c :: rest =>
    (!inWord && weakHashes.any fun w =>
      match afterFolded? w (c :: rest) with
      | some after => wordEnds after
      | none => false) || namesWeakHash (isWordCharacter c) rest

def isQuote (c : Char) : Bool := c == '"' || c == '\''

/-- A colon or an equals sign, then a quoted text that is not empty; blanks between them. -/
def startsAssignedText (s : List Char) : Bool :=
  match trimStart s with
  | c :: rest =>
    (c == ':' || c == '=') &&
      match trimStart rest with
      | q :: text =>
        isQuote q && !(text.takeWhile (!isQuote ·)).isEmpty && !(text.dropWhile (!isQuote ·)).isEmpty
      | [] => false
  | [] => false

/-- A password with a text assigned to it. -/
def assignsPassword (s : List Char) : Bool :=
  someSuffix (fun here => (afterFolded? "password".toList here).any startsAssignedText) s

/-- The rest after one optional separator. -/
def afterSeparator : List Char → List Char
  | '_' :: rest => rest
  | '-' :: rest => rest
  | s => s

/-- An API key with a text assigned to it. -/
def assignsApiKey (s : List Char) : Bool :=
  someSuffix (fun here =>
    (((afterFolded? "api".toList here).map afterSeparator).bind (afterFolded? "key".toList)).any
      startsAssignedText) s

/-- A call of `eval`. -/
def callsEval (s : List Char) : Bool :=
  someSuffix (fun here =>
    (afterFolded? "eval".toList here).any fun rest => (trimStart rest).head? == some '(') s

/-! ## The rules -/

/-- A heuristic. -/
structure Heuristic where
  tag : String
  vulnerability : VulnerabilityClass
  description : String
  location : String
  cwe : String
  exploitability : Exploitability
  applies : List Char → Bool

def heuristics : List Heuristic := [
  { tag := "sensitiveLogging"
    vulnerability := .informationDisclosure
    description := "Sensitive information may be logged to console"
    location := "console.log statements"
    cwe := "CWE-532"
    exploitability := .low
    applies := logsSecret },
  { tag := "plaintextHttp"
    vulnerability := .insecureTransport
    description := "HTTP protocol used instead of HTTPS"
    location := "HTTP URLs"
    cwe := "CWE-319"
    exploitability := .medium
    applies := usesPlainHttp },
  { tag := "weakHash"
    vulnerability := .weakCryptography
    description := "Weak cryptographic hash algorithm detected"
    location := "Cryptographic functions"
    cwe := "CWE-327"
    exploitability := .medium
    applies := namesWeakHash false }]

/-- The finding of a heuristic. -/
def Heuristic.finding (h : Heuristic) : Finding where
  vulnerability := h.vulnerability
  description := h.description
  location := .described h.location
  severity := .medium
  confidence := .medium
  exploitability := h.exploitability
  cwe := some h.cwe
  pattern := h.tag

/-- The findings of the heuristics on a text. -/
def heuristicFindings (content : String) : List Finding :=
  let s := content.toList
  (heuristics.filter (·.applies s)).map Heuristic.finding

/-- A rule for files without a syntax tree. -/
structure FallbackRule where
  tag : String
  label : String
  vulnerability : VulnerabilityClass
  severity : Severity
  cwe : String
  applies : List Char → Bool

def fallbackRules : List FallbackRule := [
  { tag := "hardcodedPassword"
    label := "Hardcoded Password"
    vulnerability := .hardcodedCredentials
    severity := .high
    cwe := "CWE-798"
    applies := assignsPassword },
  { tag := "hardcodedApiKey"
    label := "Hardcoded API Key"
    vulnerability := .hardcodedCredentials
    severity := .high
    cwe := "CWE-798"
    applies := assignsApiKey },
  { tag := "codeInjection"
    label := "Code Injection"
    vulnerability := .codeInjection
    severity := .critical
    cwe := "CWE-95"
    applies := callsEval }]

/-- The finding of a fallback rule. Nothing is known about reachability. -/
def FallbackRule.finding (filename : String) (r : FallbackRule) : Finding where
  vulnerability := r.vulnerability
  description := r.label ++ " detected in " ++ filename
  location := .described "Multiple locations"
  severity := r.severity
  confidence := .low
  exploitability := .high
  cwe := some r.cwe
  pattern := r.tag

/-- The findings of the fallback rules on a text. -/
def fallbackFindings (content filename : String) : List Finding :=
  let s := content.toList
  (fallbackRules.filter (·.applies s)).map (FallbackRule.finding filename)

end ChangeReview.Scan
