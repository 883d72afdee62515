import ChangeReview.Toml.Text

/-!
# TOML documents

Reading a whole document into one table. A table may be spread over headers and dotted keys, but no
key is set twice, no header is repeated, and nothing is added to a table between braces.
-/

namespace ChangeReview.Toml

abbrev Table := List (String × Value)

namespace Table

def get? (t : Table) (key : String) : Option Value := (t.find? (·.1 == key)).map (·.2)

/-- Replace the value of a key, or add the key at the end. -/
def put (t : Table) (key : String) (v : Value) : Table :=
  match t with
  | [] => [(key, v)]
  | (k, w) :: rest => if k = key then (k, v) :: rest else (k, w) :: put rest key v

/-- Set a key that is not there yet, below the tables that a dotted key names. -/
def setDotted? (t : Table) : (path : List String) → (v : Value) → Option Table
  | [], _ => none
  | [key], v => if (t.get? key).isSome then none else some (t.put key v)
  | key :: path, v =>
    match t.get? key with
    | none => do
      let inner ← setDotted? [] path v
      some (t.put key (.table .dotted inner))
    | some (.table .dotted inner) => do
      let inner ← setDotted? inner path v
      some (t.put key (.table .dotted inner))
    | some (.table .path inner) => do
      let inner ← setDotted? inner path v
      some (t.put key (.table .path inner))
    | some _ => none

/-- Change the table at the end of a header's path. The tables on the way are made as needed, and of
several tables under one key the last is meant. `finish` gets what is there now. -/
def atPath? (finish : Option Value → Option Value) (t : Table) : List String → Option Table
  | [] => none
  | [key] => do
    let v ← finish (t.get? key)
    some (t.put key v)
  | key :: path =>
    match t.get? key with
    | none => do
      let inner ← atPath? finish [] path
      some (t.put key (.table .path inner))
    | some (.table .braces _) => none
    | some (.table origin inner) => do
      let inner ← atPath? finish inner path
      some (t.put key (.table origin inner))
    | some (.tables items) =>
      match items.getLast? with
      | some (.table origin inner) => do
        let inner ← atPath? finish inner path
        some (t.put key (.tables (items.dropLast ++ [.table origin inner])))
      | _ => none
    | some _ => none

/-- What a header in single brackets leaves. -/
def openTable : Option Value → Option Value
  | none => some (.table .header [])
  | some (.table .path inner) => some (.table .header inner)
  | some _ => none

/-- What a header in double brackets leaves. -/
def openItem : Option Value → Option Value
  | none => some (.tables [.table .header []])
  | some (.tables items) => some (.tables (items ++ [.table .header []]))
  | some _ => none

/-- Set a key in the table that a header has opened. -/
def setBelow? (path : List String) (v : Value) : Option Value → Option Value
  | some (.table origin inner) => (setDotted? inner path v).map (.table origin)
  | some (.tables items) =>
    match items.getLast? with
    | some (.table origin inner) =>
      (setDotted? inner path v).map fun inner => .tables (items.dropLast ++ [.table origin inner])
    | _ => none
  | _ => none

end Table

/-! ## Values -/

/-- Reads a value and returns the rest. -/
abbrev ValueReader := List Char → Option (Value × List Char)

/-- The items of an array that has begun. `read` holds the items so far, last first. -/
def arrayItems? (item : ValueReader) : (fuel : Nat) → (read : List Value) → ValueReader
  | 0, _, _ => none
  | fuel + 1, read, s =>
    match skipBlank s with
    | ']' :: rest => some (.array read.reverse, rest)
    | s => do
      let (v, rest) ← item s
      match skipBlank rest with
      | ',' :: rest => arrayItems? item fuel (v :: read) rest
      | ']' :: rest => some (.array (v :: read).reverse, rest)
      | _ => none

/-- A key, an equals sign and a value. -/
def keyValue? (item : ValueReader) (s : List Char) : Option ((List String × Value) × List Char) := do
  let (path, rest) ← dottedKey? s
  let rest ← afterChar? '=' (skipSpace rest)
  let (v, rest) ← item (skipSpace rest)
  some ((path, v), rest)

/-- The members of a table between braces that has begun. -/
def braceMembers? (item : ValueReader) : (fuel : Nat) → Table → ValueReader
  | 0, _, _ => none
  | fuel + 1, t, s =>
    match skipBlank s with
    | '\x7d' :: rest => some (.table .braces t, rest)
    | s => do
      let ((path, v), rest) ← keyValue? item s
      let t ← t.setDotted? path v
      match skipBlank rest with
      | ',' :: rest => braceMembers? item fuel t rest
      | '\x7d' :: rest => some (.table .braces t, rest)
      | _ => none

/-- Read a value with at most `depth` levels of brackets and braces. -/
def value? : (depth : Nat) → ValueReader
  | 0, _ => none
  | depth + 1, s =>
    match s with
    | '[' :: rest => arrayItems? (value? depth) (rest.length + 1) [] rest
    | '\x7b' :: rest => braceMembers? (value? depth) (rest.length + 1) [] rest
    | '"' :: _ | '\'' :: _ => (string? s).map fun p => (.string p.1, p.2)
    | s =>
      let (run, rest) := splitScalar s
      (scalar? run).map fun v => (v, rest)

/-- The deepest nesting of brackets and braces. -/
def depthLimit : Nat := 80

/-! ## Documents -/

/-- A header: its path, whether its brackets are double, and the rest. -/
def header? (s : List Char) : Option (List String × Bool × List Char) :=
  match s with
  | '[' :: '[' :: rest => do
    let (path, rest) ← dottedKey? rest
    let rest ← afterChar? ']' rest
    let rest ← afterChar? ']' rest
    some (path, true, rest)
  | '[' :: rest => do
    let (path, rest) ← dottedKey? rest
    let rest ← afterChar? ']' rest
    some (path, false, rest)
  | _ => none

/-- Read the lines of a document. `current` is the path of the last header. -/
def readLines? : (fuel : Nat) → (current : List String) → Table → List Char → Option Table
  | 0, _, _, _ => none
  | fuel + 1, current, t, s =>
    match skipBlank s with
    | [] => some t
    | '[' :: rest => do
      let (path, double, rest) ← header? ('[' :: rest)
      let t ← t.atPath? (if double then Table.openItem else Table.openTable) path
      let rest ← afterLine? rest
      readLines? fuel path t rest
    | s => do
      let ((path, v), rest) ← keyValue? (value? (depthLimit + 1)) s
      let t ← if current.isEmpty then t.setDotted? path v
        else t.atPath? (Table.setBelow? path v) current
      let rest ← afterLine? rest
      readLines? fuel current t rest

/-- Read a document. A byte order mark at its start is skipped. -/
def parse? (text : String) : Option Table :=
  let s := match text.toList with
    | c :: rest => if c.toNat = 0xFEFF then rest else c :: rest
    | [] => []
  readLines? (s.length + 1) [] [] s

end ChangeReview.Toml
