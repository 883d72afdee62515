import ChangeReview.Json.Value

/-!
# TOML values

The values of a TOML document. A table remembers how it came about, since that decides what may
still be added to it. The members of a table stand in the order in which they were written.
-/

namespace ChangeReview.Toml

/-- How a table came about. -/
inductive TableOrigin where
  /-- As a parent in the path of a header. -/
  | path
  /-- By a header of its own. -/
  | header
  /-- As a parent in a dotted key. -/
  | dotted
  /-- Between braces; nothing can be added to it. -/
  | braces
  deriving DecidableEq, Repr

inductive Value where
  | string (s : String)
  | integer (i : Int)
  /-- Not a finite number when `none`. -/
  | float (x : Option Binary64)
  | boolean (b : Bool)
  | datetime (text : String)
  | array (items : List Value)
  | table (origin : TableOrigin) (members : List (String × Value))
  /-- The tables of headers in double brackets. -/
  | tables (items : List Value)
  deriving Repr, Inhabited

namespace Value

/-- An integer as records see it. -/
def integerJson (i : Int) : Json.Value :=
  .number (if 0 ≤ i then .natural i.toNat else .negative i.natAbs)

/-- The key under which records see a date or time. -/
def datetimeKey : String := "$__toml_private_datetime"

mutual

/-- A value as records see it. A float is a float for them whatever it is. -/
def toJson : Value → Json.Value
  | string s => .string s
  | integer i => integerJson i
  | float x => .number (.real (x.getD (Binary64.zero false)))
  | boolean b => .bool b
  | datetime text => .ofPairs [(datetimeKey, .string text)]
  | array items => .array (itemsJson items)
  | table _ members => .ofPairs (membersJson members)
  | tables items => .array (itemsJson items)

def itemsJson : List Value → List Json.Value
  | [] => []
  | v :: rest => v.toJson :: itemsJson rest

def membersJson : List (String × Value) → List (String × Json.Value)
  | [] => []
  | (k, v) :: rest => (k, v.toJson) :: membersJson rest

end

end Value

end ChangeReview.Toml
