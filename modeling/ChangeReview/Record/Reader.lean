import ChangeReview.Record.Mismatch

/-!
# Reading records

Readers of the plain values that records are made of, and of records as a whole. A record is read
from an object by the names of its fields or from an array by their order. The fields that an
object does give are checked in the order of their keys before any missing one is noticed; keys
that name no field are ignored.
-/

namespace ChangeReview.Record

open Json

/-- Result of reading. -/
abbrev Read (α : Type) := Except Mismatch α

/-- A string. -/
def string : Value → Read String
  | .string s => .ok s
  | v => .error (.wrongType (.value v) "a string")

/-- A truth value. -/
def bool : Value → Read Bool
  | .bool b => .ok b
  | v => .error (.wrongType (.value v) "a boolean")

/-- A natural number below a bound; `expected` names the range. -/
def natBelow (bound : Nat) (expected : String) : Value → Read Nat
  | .number (.natural n) =>
    if n < bound then .ok n else .error (.wrongValue (.value (.number (.natural n))) expected)
  | .number (.negative n) => .error (.wrongValue (.value (.number (.negative n))) expected)
  | v => .error (.wrongType (.value v) expected)

/-- A natural number of 32 bits. -/
def nat32 : Value → Read Nat := natBelow (Nat.pow 2 32) "u32"

/-- A natural number of 64 bits. -/
def nat64 : Value → Read Nat := natBelow (Nat.pow 2 64) "usize"

/-- A value or nothing, for `null`. -/
def optional {α : Type} (read : Value → Read α) : Value → Read (Option α)
  | .null => .ok none
  | v => (read v).map some

/-- A list of values. -/
def list {α : Type} (read : Value → Read α) : Value → Read (List α)
  | .array items => items.mapM read
  | v => .error (.wrongType (.value v) "a sequence")

/-- The single key and value of an object that names a variant, or the bare name. -/
def variant : Value → Read (String × Option Value)
  | .string s => .ok (s, none)
  | .object [(name, v)] => .ok (name, some v)
  | .object members => .error (.wrongValue (.value (.object members)) "map with a single key")
  | v => .error (.wrongType (.value v) "string or map")

/-- A variant without data: its name, or an object that maps its name to `null`. -/
def plainVariant {α : Type} (all : List α) (name : α → String) (v : Value) : Read α := do
  let (given, data) ← variant v
  match all.find? (name · == given) with
  | none => .error (.unknownVariant given (all.map name))
  | some a =>
    match data with
    | none | some .null => .ok a
    | some data => .error (.wrongType (.value data) "unit")

/-! ## Fields -/

/-- Where the fields of a record come from. -/
inductive Source where
  | members (members : Members)
  | items (items : List Value)

/-- The value of a field, by its name or by its index. -/
def Source.value? (source : Source) (index : Nat) (name : String) : Option Value :=
  match source with
  | .members given => given.get? name
  | .items given => given[index]?

/-- A reader of fields: the names it reads with a check of each, and how it builds its result from
a source, given the text for a record that is too short and the index of its first field. -/
structure Fields (α : Type) where
  names : List String
  check : String → Value → Read Unit
  read : (tooShort : String) → Source → (first : Nat) → Read α

namespace Fields

/-- No field. -/
def pure {α : Type} (a : α) : Fields α := ⟨[], fun _ _ => .ok (), fun _ _ _ => .ok a⟩

/-- The fields of one reader followed by those of another. -/
def seq {α β : Type} (f : Fields (α → β)) (x : Unit → Fields α) : Fields β where
  names := f.names ++ (x ()).names
  check name v := if name ∈ f.names then f.check name v else (x ()).check name v
  read tooShort source first := do
    let g ← f.read tooShort source first
    let a ← (x ()).read tooShort source (first + f.names.length)
    .ok (g a)

instance : Applicative Fields where
  pure := pure
  seq := seq

/-- A field that must be there. -/
def required {α : Type} (name : String) (read : Value → Read α) : Fields α where
  names := [name]
  check _ v := (read v).map fun _ => ()
  read tooShort source first :=
    match source.value? first name with
    | some v => read v
    | none =>
      match source with
      | .members _ => .error (.missingField name)
      | .items _ => .error (.wrongLength first tooShort)

/-- A field with a default for a record that does not have it. -/
def withDefault {α : Type} (name : String) (read : Value → Read α) (absent : α) : Fields α where
  names := [name]
  check _ v := (read v).map fun _ => ()
  read _ source first :=
    match source.value? first name with
    | some v => read v
    | none => .ok absent

/-- A field that may be missing from an object, but not from an array. -/
def maybe {α : Type} (name : String) (read : Value → Read α) : Fields (Option α) where
  names := [name]
  check _ v := (optional read v).map fun _ => ()
  read tooShort source first :=
    match source.value? first name with
    | some v => optional read v
    | none =>
      match source with
      | .members _ => .ok none
      | .items _ => .error (.wrongLength first tooShort)

/-- Read a record from an object: the given fields in the order of their keys, then the rest. -/
def ofMembers {α : Type} (fields : Fields α) (members : Members) : Read α := do
  members.forM fun (name, v) => if name ∈ fields.names then fields.check name v else .ok ()
  fields.read "" (.members members) 0

/-- Read a record of the given name. -/
def record {α : Type} (name : String) (fields : Fields α) : Value → Read α
  | .object members => fields.ofMembers members
  | .array items => do
    let a ← fields.read
      ("struct " ++ name ++ " with " ++ toString fields.names.length ++ " elements")
      (.items items) 0
    if fields.names.length < items.length then
      .error (.wrongLength items.length "fewer elements in array")
    else .ok a
  | v => .error (.wrongType (.value v) ("struct " ++ name))

end Fields

end ChangeReview.Record
