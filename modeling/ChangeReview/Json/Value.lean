import ChangeReview.Number.Shortest

/-!
# JSON values

Numbers keep the form they were written in: a natural number, a negative integer, or a double.
The members of an object stand in the order of their keys, each key once; `insert` keeps that
order and lets the last of two equal keys win.
-/

namespace ChangeReview.Json

/-- A number. `negative n` stands for `-n`. -/
inductive Number where
  | natural (n : Nat)
  | negative (n : Nat)
  | real (x : Binary64)
  deriving DecidableEq, Repr, Inhabited

inductive Value where
  | null
  | bool (b : Bool)
  | number (n : Number)
  | string (s : String)
  | array (items : List Value)
  | object (members : List (String × Value))
  deriving Repr, Inhabited

/-- The members of an object: keys and values in the order of the keys. -/
abbrev Members := List (String × Value)

namespace Number

/-- Integers in full, doubles by their shortest digits. -/
def text : Number → String
  | .natural n => toString n
  | .negative n => "-" ++ toString n
  | .real x => x.text

/-- The double nearest to the number. -/
def toBinary64 : Number → Binary64
  | .natural n => Binary64.ofNat n
  | .negative n => Binary64.ofInt (-(n : Int))
  | .real x => x

end Number

namespace Members

/-- The value of a key. -/
def get? (members : Members) (key : String) : Option Value :=
  (members.find? (·.1 == key)).map (·.2)

/-- Set the value of a key, keeping the order of the keys. -/
def insert (key : String) (value : Value) : Members → Members
  | [] => [(key, value)]
  | (k, v) :: rest =>
    if key < k then (key, value) :: (k, v) :: rest
    else if key = k then (key, value) :: rest
    else (k, v) :: insert key value rest

/-- The object with the given members; the last of two equal keys wins. -/
def ofList (pairs : List (String × Value)) : Members :=
  pairs.foldl (fun members p => insert p.1 p.2 members) []

theorem get?_nil (key : String) : get? [] key = none := rfl

theorem get?_insert_self (key : String) (value : Value) (members : Members) :
    get? (insert key value members) key = some value := by
  induction members with
  | nil => simp [insert, get?]
  | cons p rest ih =>
    obtain ⟨k, v⟩ := p
    unfold insert
    split
    · simp [get?]
    · split
      · simp [get?]
      · next h =>
        have hk : (k == key) = false := by
          simpa using fun e => h e.symm
        simpa [get?, List.find?_cons, hk] using ih

/-- Setting the value of a key leaves the values of the others. -/
theorem get?_insert_of_ne {key other : String} (h : other ≠ key) (value : Value)
    (members : Members) : get? (insert key value members) other = get? members other := by
  have hne : (key == other) = false := by simpa using h.symm
  induction members with
  | nil => simp [insert, get?, hne]
  | cons p rest ih =>
    obtain ⟨k, v⟩ := p
    unfold insert
    split
    · simp [get?, List.find?_cons, hne]
    · split
      · next hk =>
        subst hk
        simp [get?, hne]
      · simp only [get?, List.find?_cons] at ih ⊢
        split
        · rfl
        · exact ih

/-- The value of a key is that of the last pair with the key. -/
theorem get?_ofList (pairs : List (String × Value)) (key : String) :
    get? (ofList pairs) key = (pairs.reverse.find? (·.1 == key)).map (·.2) := by
  suffices h : ∀ members : Members, get? (pairs.foldl (fun m p => insert p.1 p.2 m) members) key =
      ((pairs.reverse.find? (·.1 == key)).map (·.2)).or (get? members key) by
    rw [ofList, h, get?_nil, Option.or_none]
  induction pairs with
  | nil => exact fun members => rfl
  | cons p rest ih =>
    intro members
    rw [List.foldl_cons, ih, List.reverse_cons, List.find?_append, Option.map_or, Option.or_assoc]
    congr 1
    by_cases hp : p.1 = key
    · subst hp
      simp [get?_insert_self]
    · simp [get?_insert_of_ne (Ne.symm hp), hp]

end Members

namespace Value

/-- The string, when the value is one. -/
def string? : Value → Option String
  | .string s => some s
  | _ => none

/-- The members, when the value is an object. -/
def members? : Value → Option Members
  | .object members => some members
  | _ => none

/-- The items, when the value is an array. -/
def items? : Value → Option (List Value)
  | .array items => some items
  | _ => none

/-- An object with the given members, in the order of the keys. -/
def ofPairs (pairs : List (String × Value)) : Value := .object (Members.ofList pairs)

/-- A natural number. -/
def ofNat (n : Nat) : Value := .number (.natural n)

/-- A value or `null`. -/
def ofOption (o : Option Value) : Value := o.getD .null

/-- What kind of value it is, with its article. -/
def kind : Value → String
  | .null => "null"
  | .bool _ => "a boolean"
  | .number _ => "a number"
  | .string _ => "a string"
  | .array _ => "an array"
  | .object _ => "an object"

end Value

end ChangeReview.Json
