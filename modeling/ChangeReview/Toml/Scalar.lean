import ChangeReview.Number.Decimal
import ChangeReview.Toml.Value

/-!
# Numbers, dates and truth values in TOML

A scalar that is no string is one run of characters. It is a truth value, an integer of 64 bits, a
float, or a date or time.
-/

namespace ChangeReview.Toml

/-! ## Digits -/

def isHexDigit (c : Char) : Bool :=
  c.isDigit || ('a' ≤ c && c ≤ 'f') || ('A' ≤ c && c ≤ 'F')

/-- The value of a digit of a base up to sixteen. -/
def digitValue (c : Char) : Nat :=
  if c.isDigit then c.toNat - 48
  else if 'a' ≤ c ∧ c ≤ 'f' then c.toNat - 87
  else c.toNat - 55

/-- Digits in which single underscores may stand between two of them, without the underscores. -/
def plainDigits? (isDigit : Char → Bool) : List Char → Option (List Char)
  | [] => none
  | [c] => if isDigit c then some [c] else none
  | c :: '_' :: rest => if isDigit c then (plainDigits? isDigit rest).map (c :: ·) else none
  | c :: rest => if isDigit c then (plainDigits? isDigit rest).map (c :: ·) else none

/-- Decimal digits without a needless leading zero. -/
def decimalDigits? (s : List Char) : Option (List Char) :=
  match plainDigits? Char.isDigit s with
  | some ['0'] => some ['0']
  | some ('0' :: _) => none
  | digits => digits

/-! ## Numbers -/

/-- An integer of 64 bits. -/
def integerInRange? (i : Int) : Option Value :=
  if -(Int.pow 2 63) ≤ i ∧ i < Int.pow 2 63 then some (.integer i) else none

/-- An integer in a base, after its mark. -/
def basedInteger? (base : Nat) (isDigit : Char → Bool) (s : List Char) : Option Value := do
  let digits ← plainDigits? isDigit s
  integerInRange? (digits.foldl (fun n c => n * base + digitValue c) 0 : Nat)

/-- The exponent of a float, after its letter. -/
def floatExponent? (s : List Char) : Option Int := do
  let (negative, s) := Binary64.splitSign s
  let digits ← plainDigits? Char.isDigit s
  let e : Int := Binary64.digitsValue digits
  some (if negative then -e else e)

/-- A decimal integer or a float, after its sign. -/
def decimal? (negative : Bool) (s : List Char) : Option Value := do
  let isPart := fun (c : Char) => c.isDigit || c == '_'
  let whole ← decimalDigits? (s.takeWhile isPart)
  match s.dropWhile isPart with
  | [] =>
    let n : Int := Binary64.digitsValue whole
    integerInRange? (if negative then -n else n)
  | '.' :: rest =>
    let fraction ← plainDigits? Char.isDigit (rest.takeWhile isPart)
    let e ← match rest.dropWhile isPart with
      | [] => some 0
      | c :: rest => if c = 'e' ∨ c = 'E' then floatExponent? rest else none
    some (.float (Binary64.ofDecimal? negative (whole ++ fraction) (e - fraction.length)))
  | c :: rest =>
    if c = 'e' ∨ c = 'E' then
      let e ← floatExponent? rest
      some (.float (Binary64.ofDecimal? negative whole e))
    else none

/-- A number that is written with or without a sign. -/
def number? (s : List Char) : Option Value :=
  match s with
  | '0' :: 'x' :: rest => basedInteger? 16 isHexDigit rest
  | '0' :: 'o' :: rest => basedInteger? 8 (fun c => '0' ≤ c && c ≤ '7') rest
  | '0' :: 'b' :: rest => basedInteger? 2 (fun c => c == '0' || c == '1') rest
  | s =>
    let (negative, digits) := Binary64.splitSign s
    if digits = "inf".toList ∨ digits = "nan".toList then some (.float none)
    else decimal? negative digits

/-! ## Dates and times -/

/-- A number of exactly `count` digits, and the rest. -/
def fixedDigits? (count : Nat) (s : List Char) : Option (Nat × List Char) :=
  let digits := s.take count
  if digits.length = count ∧ digits.all Char.isDigit then
    some (Binary64.digitsValue digits, s.drop count)
  else none

/-- The rest after a character. -/
def afterChar? (c : Char) : List Char → Option (List Char)
  | d :: rest => if d = c then some rest else none
  | [] => none

/-- Number of days of a month. -/
def monthLength (year month : Nat) : Nat :=
  if month = 2 then
    if year % 4 = 0 ∧ (year % 100 ≠ 0 ∨ year % 400 = 0) then 29 else 28
  else if month = 4 ∨ month = 6 ∨ month = 9 ∨ month = 11 then 30
  else 31

/-- The rest after a date. -/
def afterDate? (s : List Char) : Option (List Char) := do
  let (year, s) ← fixedDigits? 4 s
  let s ← afterChar? '-' s
  let (month, s) ← fixedDigits? 2 s
  let s ← afterChar? '-' s
  let (day, s) ← fixedDigits? 2 s
  if 1 ≤ month ∧ month ≤ 12 ∧ 1 ≤ day ∧ day ≤ monthLength year month then some s else none

/-- The rest after a fraction of a second. -/
def afterFraction? (s : List Char) : Option (List Char) :=
  match s with
  | '.' :: rest =>
    if (rest.takeWhile Char.isDigit).isEmpty then none else some (rest.dropWhile Char.isDigit)
  | s => some s

/-- The rest after a time; seconds may be left out. -/
def afterTime? (s : List Char) : Option (List Char) := do
  let (hour, s) ← fixedDigits? 2 s
  let s ← afterChar? ':' s
  let (minute, s) ← fixedDigits? 2 s
  if 23 < hour ∨ 59 < minute then none
  else
    match s with
    | ':' :: s =>
      let (second, s) ← fixedDigits? 2 s
      if 60 < second then none else afterFraction? s
    | s => some s

/-- Whether a text is nothing or an offset from universal time. -/
def isOffset (s : List Char) : Bool :=
  match s with
  | [] => true
  | ['Z'] | ['z'] => true
  | c :: rest =>
    (c == '+' || c == '-') &&
      match fixedDigits? 2 rest with
      | some (hour, ':' :: rest) =>
        match fixedDigits? 2 rest with
        | some (minute, []) => hour ≤ 23 && minute ≤ 59
        | _ => false
      | _ => false

/-- Whether a text is a date, a time, or both. -/
def isDatetime (s : List Char) : Bool :=
  match afterDate? s with
  | some [] => true
  | some (c :: rest) =>
    (c == 'T' || c == 't' || c == ' ') &&
      match afterTime? rest with
      | some rest => isOffset rest
      | none => false
  | none =>
    match afterTime? s with
    | some rest => rest.isEmpty
    | none => false

/-! ## Scalars -/

/-- The characters that make up a scalar. -/
def isScalarChar (c : Char) : Bool :=
  c.isAlphanum || c == '_' || c == '+' || c == '-' || c == '.' || c == ':'

/-- The run of characters of a scalar, and the rest. A blank after a date belongs to it when a time
follows. -/
def splitScalar (s : List Char) : List Char × List Char :=
  let run := s.takeWhile isScalarChar
  match s.dropWhile isScalarChar with
  | ' ' :: rest =>
    if afterDate? run = some [] ∧ (rest.take 2).all Char.isDigit ∧ (rest.drop 2).head? = some ':' then
      (run ++ ' ' :: rest.takeWhile isScalarChar, rest.dropWhile isScalarChar)
    else (run, ' ' :: rest)
  | rest => (run, rest)

/-- The value of a run of characters. -/
def scalar? (s : List Char) : Option Value :=
  if s = "true".toList then some (.boolean true)
  else if s = "false".toList then some (.boolean false)
  else if isDatetime s then some (.datetime (String.ofList s))
  else number? s

end ChangeReview.Toml
