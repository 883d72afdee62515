import ChangeReview.Json.Value
import ChangeReview.Text.Debug

/-!
# Why a value is not a record

A mismatch is a cause; its wording is one function. What was found is named by its kind, and
numbers and strings are shown.
-/

namespace ChangeReview.Record

open Json

/-- What was found in place of the expected. -/
inductive Found where
  | value (v : Value)
  | unitVariant
  deriving Repr

/-- Name of what was found. -/
def Found.text : Found → String
  | .value .null => "null"
  | .value (.bool b) => "boolean `" ++ (if b then "true" else "false") ++ "`"
  | .value (.number (.real x)) => "floating point `" ++ x.text ++ "`"
  | .value (.number n) => "integer `" ++ n.text ++ "`"
  | .value (.string s) => "string " ++ Text.debugQuoted s
  | .value (.array _) => "sequence"
  | .value (.object _) => "map"
  | .unitVariant => "unit variant"

/-- Why a value is not a record of the expected shape. -/
inductive Mismatch where
  | wrongType (found : Found) (expected : String)
  | wrongValue (found : Found) (expected : String)
  | wrongLength (length : Nat) (expected : String)
  | missingField (name : String)
  | unknownVariant (name : String) (known : List String)
  deriving Repr

/-- A name between backquotes. -/
def backquoted (s : String) : String := "`" ++ s ++ "`"

/-- The names that would have been accepted. -/
def oneOf : List String → String
  | [] => "there are no variants"
  | [a] => "expected " ++ backquoted a
  | [a, b] => "expected " ++ backquoted a ++ " or " ++ backquoted b
  | names => "expected one of " ++ String.intercalate ", " (names.map backquoted)

/-- A mismatch in words. -/
def Mismatch.message : Mismatch → String
  | .wrongType found expected => "invalid type: " ++ found.text ++ ", expected " ++ expected
  | .wrongValue found expected => "invalid value: " ++ found.text ++ ", expected " ++ expected
  | .wrongLength n expected => "invalid length " ++ toString n ++ ", expected " ++ expected
  | .missingField name => "missing field " ++ backquoted name
  | .unknownVariant name known => "unknown variant " ++ backquoted name ++ ", " ++ oneOf known

end ChangeReview.Record
