import ChangeReview.Text.Ascii
import ChangeReview.Text.Blank
import ChangeReview.Record.Reader

/-!
# Severity, confidence and exploitability

The three grades of a detection, each with its name, the lenient reading of a name, and its JSON
form. A lenient reading trims blanks, ignores ASCII case and knows a few synonyms; a JSON form is
the name alone.
-/

namespace ChangeReview

/-- A name as lenient readings compare it. -/
def looseName (s : String) : String := Text.loweredAscii (Text.trimmed s)

/-- How bad a defect is. -/
inductive Severity where
  | low
  | medium
  | high
  | critical
  deriving DecidableEq, Repr, Inhabited

/-- How sure a detector is. -/
inductive Confidence where
  | high
  | medium
  | low
  deriving DecidableEq, Repr, Inhabited

/-- How easily a defect can be exploited. -/
inductive Exploitability where
  | high
  | medium
  | low
  | none
  deriving DecidableEq, Repr, Inhabited

namespace Severity

/-- All severities, the worst first. -/
def all : List Severity := [.critical, .high, .medium, .low]

/-- All severities in ascending order. -/
def ascending : List Severity := [.low, .medium, .high, .critical]

def name : Severity → String
  | .low => "low"
  | .medium => "medium"
  | .high => "high"
  | .critical => "critical"

/-- Place in the ascending order. -/
def rank : Severity → Nat
  | .low => 0
  | .medium => 1
  | .high => 2
  | .critical => 3

/-- The exploitability assumed for a structural match of this severity. -/
def defaultExploitability : Severity → Exploitability
  | .critical => .high
  | .high => .medium
  | .medium => .low
  | .low => .none

/-- Lenient reading; `moderate` is another word for `medium`. -/
def ofText? (s : String) : Option Severity :=
  match looseName s with
  | "critical" => some .critical
  | "high" => some .high
  | "medium" | "moderate" => some .medium
  | "low" => some .low
  | _ => none

def toJson (s : Severity) : Json.Value := .string s.name

def ofJson : Json.Value → Record.Read Severity := Record.plainVariant ascending name

theorem mem_all (s : Severity) : s ∈ all := by cases s <;> decide

theorem ofText?_name (s : Severity) : ofText? s.name = some s := by cases s <;> rfl

theorem ofJson_toJson (s : Severity) : ofJson s.toJson = .ok s := by cases s <;> rfl

end Severity

namespace Confidence

/-- All grades of confidence. -/
def all : List Confidence := [.high, .medium, .low]

def name : Confidence → String
  | .high => "high"
  | .medium => "medium"
  | .low => "low"

/-- Lenient reading. -/
def ofText? (s : String) : Option Confidence :=
  match looseName s with
  | "high" => some .high
  | "medium" => some .medium
  | "low" => some .low
  | _ => none

def toJson (c : Confidence) : Json.Value := .string c.name

def ofJson : Json.Value → Record.Read Confidence := Record.plainVariant all name

theorem ofText?_name (c : Confidence) : ofText? c.name = some c := by cases c <;> rfl

theorem ofJson_toJson (c : Confidence) : ofJson c.toJson = .ok c := by cases c <;> rfl

end Confidence

namespace Exploitability

/-- All grades of exploitability. -/
def all : List Exploitability := [.high, .medium, .low, .none]

def name : Exploitability → String
  | .high => "high"
  | .medium => "medium"
  | .low => "low"
  | .none => "none"

/-- Lenient reading. -/
def ofText? (s : String) : Option Exploitability :=
  match looseName s with
  | "high" => some .high
  | "medium" => some .medium
  | "low" => some .low
  | "none" => some .none
  | _ => Option.none

def toJson (e : Exploitability) : Json.Value := .string e.name

def ofJson : Json.Value → Record.Read Exploitability := Record.plainVariant all name

theorem ofText?_name (e : Exploitability) : ofText? e.name = some e := by cases e <;> rfl

theorem ofJson_toJson (e : Exploitability) : ofJson e.toJson = .ok e := by cases e <;> rfl

end Exploitability

end ChangeReview
