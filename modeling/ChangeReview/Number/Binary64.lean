/-!
# Finite binary64 numbers, exactly

A finite double is a sign, a significand below `2^53` and a binary exponent of at least `-1074`,
and stands for `± significand * 2^exponent`. Arithmetic is done on exact quotients of natural
numbers and rounded once, to the nearest representable value and to the even significand on a tie.
Working in `Nat` keeps every step visible to proofs.
-/

namespace ChangeReview

/-- A finite binary64 number, `± significand * 2^exponent`. -/
structure Binary64 where
  negative : Bool
  significand : Nat
  exponent : Int
  deriving DecidableEq, Repr, Inhabited

namespace Binary64

/-- The least exponent. -/
def minExponent : Int := -1074

/-- The exponent of the largest finite numbers. -/
def maxExponent : Int := 971

/-- Zero, with a sign. -/
def zero (negative : Bool) : Binary64 := ⟨negative, 0, minExponent⟩

/-- The natural number nearest to `num / den`; a tie goes to the even one. -/
def roundHalfEven (num den : Nat) : Nat :=
  let q := num / den
  let twice := 2 * (num % den)
  if twice < den then q
  else if den < twice then q + 1
  else if q % 2 = 0 then q else q + 1

/-- The natural number nearest to `num / den`; a tie goes up. -/
def roundHalfUp (num den : Nat) : Nat := (2 * num + den) / (2 * den)

/-- `num / (den * 2^exponent)` as a quotient of natural numbers. -/
def scaled (num den : Nat) (exponent : Int) : Nat × Nat :=
  match exponent with
  | .ofNat e => (num, den * Nat.pow 2 e)
  | .negSucc e => (num * Nat.pow 2 (e + 1), den)

/-- The exponent at which `num / den` has a significand of 53 bits, or the least exponent.
The bit lengths leave two candidates; the smaller is taken unless the significand is too long. -/
def exponentOf (num den : Nat) : Int :=
  let guess : Int := max minExponent ((num.log2 : Int) - den.log2 - 53)
  let (n, d) := scaled num den guess
  if n / d < Nat.pow 2 53 then guess else guess + 1

/-- The finite number nearest to `± num / den`; `none` when the value is too large.
A significand that rounding carries to `2^53` moves to the next exponent. -/
def nearest? (negative : Bool) (num den : Nat) : Option Binary64 :=
  if num = 0 then some (zero negative)
  else
    let e := exponentOf num den
    let (n, d) := scaled num den e
    let s := roundHalfEven n d
    let (s, e) := if s = Nat.pow 2 53 then (Nat.pow 2 52, e + 1) else (s, e)
    if maxExponent < e then none else some ⟨negative, s, e⟩

/-- The numerator of the magnitude. -/
def num (x : Binary64) : Nat := x.significand * Nat.pow 2 x.exponent.toNat

/-- The denominator of the magnitude, a power of two. -/
def den (x : Binary64) : Nat := Nat.pow 2 (-x.exponent).toNat

/-- The number nearest to a natural number below `2^1024`. -/
def ofNat (n : Nat) : Binary64 := (nearest? false n 1).getD (zero false)

/-- The number nearest to an integer. -/
def ofInt (i : Int) : Binary64 := (nearest? (i < 0) i.natAbs 1).getD (zero false)

/-- The number with the other sign. -/
def neg (x : Binary64) : Binary64 := { x with negative := !x.negative }

/-- The rounded product. -/
def mul? (x y : Binary64) : Option Binary64 :=
  nearest? (x.negative != y.negative) (x.num * y.num) (x.den * y.den)

/-- The rounded quotient by a number that is not zero. -/
def div? (x y : Binary64) : Option Binary64 :=
  nearest? (x.negative != y.negative) (x.num * y.den) (x.den * y.num)

/-- The value over the common denominator `x.den`, as an integer. -/
def signedNum (x : Binary64) : Int := if x.negative then -(x.num : Int) else x.num

/-- The rounded sum. A sum of zero is positive unless both terms are negative. -/
def add? (x y : Binary64) : Option Binary64 :=
  let n := x.signedNum * y.den + y.signedNum * x.den
  if n = 0 then some (zero (x.negative && y.negative))
  else nearest? (n < 0) n.natAbs (x.den * y.den)

/-- The rounded difference. -/
def sub? (x y : Binary64) : Option Binary64 := add? x y.neg

/-- Order by value; the two zeros are equal. -/
def lt (x y : Binary64) : Bool := x.signedNum * y.den < y.signedNum * x.den

/-- The nearest integer; a half goes away from zero. -/
def round (x : Binary64) : Int :=
  let n := roundHalfUp x.num x.den
  if x.negative then -(n : Int) else n

/-- Whether the value is zero. -/
def isZero (x : Binary64) : Bool := x.significand == 0

theorem nearest?_zero (negative : Bool) (den : Nat) :
    nearest? negative 0 den = some (zero negative) := rfl

end Binary64

end ChangeReview
