import ChangeReview.Number.Binary64

/-!
# Reading decimal text as a double

A sign, digits with a point anywhere among them, and an exponent, read as the nearest double.
-/

namespace ChangeReview.Binary64

/-- The value of a run of decimal digits. -/
def digitsValue (digits : List Char) : Nat :=
  digits.foldl (fun n c => n * 10 + (c.toNat - 48)) 0

/-- The largest decimal exponent that is worked out. No finite double and no rounding to zero is
beyond it, once the number of digits is taken into account. -/
def exponentLimit : Nat := 1000

/-- The double nearest to `digits * 10^exponent`; none when it is too large. -/
def ofDecimal? (negative : Bool) (digits : List Char) (exponent : Int) : Option Binary64 :=
  let n := digitsValue digits
  let size : Int := exponent + digits.length
  if n = 0 then some (zero negative)
  else if size < -(exponentLimit : Int) then some (zero negative)
  else if (exponentLimit : Int) + digits.length < size then none
  else
    match exponent with
    | .ofNat e => nearest? negative (n * Nat.pow 10 e) 1
    | .negSucc e => nearest? negative n (Nat.pow 10 (e + 1))

/-- A sign and the rest. -/
def splitSign : List Char → Bool × List Char
  | '-' :: rest => (true, rest)
  | '+' :: rest => (false, rest)
  | s => (false, s)

/-- Exponent of a number, when the text is empty or an exponent. -/
def readExponent? : List Char → Option Int
  | [] => some 0
  | c :: rest =>
    if c = 'e' ∨ c = 'E' then
      let (negative, digits) := splitSign rest
      if digits.isEmpty ∨ !digits.all Char.isDigit then none
      else
        let e : Int := digitsValue digits
        some (if negative then -e else e)
    else none

/-- Read a whole text. Words for infinity and for no number are not finite and give none. -/
def ofText? (text : List Char) : Option Binary64 :=
  let (negative, s) := splitSign text
  let whole := s.takeWhile Char.isDigit
  let (fraction, rest) :=
    match s.dropWhile Char.isDigit with
    | '.' :: more => (more.takeWhile Char.isDigit, more.dropWhile Char.isDigit)
    | rest => ([], rest)
  if (whole ++ fraction).isEmpty then none
  else
    match readExponent? rest with
    | some e => ofDecimal? negative (whole ++ fraction) (e - fraction.length)
    | none => none

end ChangeReview.Binary64
