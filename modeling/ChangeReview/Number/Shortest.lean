import ChangeReview.Number.Binary64

/-!
# The fewest decimal digits that read back

A finite binary64 number owns the interval of reals that round to it; the ends belong to it when
its significand is even. Among the decimals in that interval the text takes one with the fewest
digits, and of those the nearest. Comparisons are exact, on natural numbers.

The layout is positional from `0.00001` up to below `10^16`, always with a point, and scientific
outside that range.
-/

namespace ChangeReview.Binary64

/-- Number of decimal digits of a positive number; one for zero. -/
def digitCount (n : Nat) : Nat := (Nat.toDigits 10 n).length

/-- The largest `k` with `10^k ≤ num / den`, for a positive quotient. -/
def decimalExponent (num den : Nat) : Int :=
  let k : Int := (digitCount num : Int) - digitCount den
  let reaches : Bool :=
    match k with
    | .ofNat e => decide (den * Nat.pow 10 e ≤ num)
    | .negSucc e => decide (den ≤ num * Nat.pow 10 (e + 1))
  if reaches then k else k - 1

/-- The interval of reals that round to a positive number, over a common denominator: below,
value, above, denominator, and whether the ends belong to it. -/
def interval (x : Binary64) : Nat × Nat × Nat × Nat × Bool :=
  let n := x.num
  let d := x.den
  let unit := Nat.pow 2 x.exponent.toNat
  let below := if x.significand = Nat.pow 2 52 ∧ minExponent < x.exponent then unit else 2 * unit
  (4 * n - below, 4 * n, 4 * n + 2 * unit, 4 * d, x.significand % 2 = 0)

/-- Whether `digits * 10^k` lies in the interval. -/
def holds (bounds : Nat × Nat × Nat × Nat × Bool) (digits : Nat) (k : Int) : Bool :=
  let (lo, _, hi, d, ends) := bounds
  let (p, d) := match k with
    | .ofNat e => (digits * Nat.pow 10 e * d, 1)
    | .negSucc e => (digits * d, Nat.pow 10 (e + 1))
  if ends then decide (lo * d ≤ p ∧ p ≤ hi * d) else decide (lo * d < p ∧ p < hi * d)

/-- The two neighbours of the value on the grid of multiples of `10^k`, and whether the lower is
the nearer one. A tie goes to the even digit string. -/
def neighbours (bounds : Nat × Nat × Nat × Nat × Bool) (k : Int) : Nat × Nat × Bool :=
  let (_, n, _, d, _) := bounds
  let (n, d) := match k with
    | .ofNat e => (n, d * Nat.pow 10 e)
    | .negSucc e => (n * Nat.pow 10 (e + 1), d)
  let q := n / d
  let twice := 2 * (n % d)
  (q, q + 1, twice < d || (twice == d && q % 2 == 0))

/-- The digits found on the grid of `10^k`, if any. -/
def onGrid? (bounds : Nat × Nat × Nat × Nat × Bool) (k : Int) : Option Nat :=
  let (low, high, lowNearer) := neighbours bounds k
  match 0 < low && holds bounds low k, holds bounds high k with
  | true, true => some (if lowNearer then low else high)
  | true, false => some low
  | false, true => some high
  | false, false => none

/-- Try the grids of one digit, two digits and so on. -/
def firstGrid? (bounds : Nat × Nat × Nat × Nat × Bool) : Nat → Int → Option (Nat × Int)
  | 0, _ => none
  | tries + 1, k =>
    match onGrid? bounds k with
    | some digits => some (digits, k)
    | none => firstGrid? bounds tries (k - 1)

/-- Drop the zeros at the end of a digit string, raising the exponent. -/
def stripZeros : Nat → Nat → Int → Nat × Int
  | 0, digits, k => (digits, k)
  | tries + 1, digits, k =>
    if digits % 10 = 0 ∧ digits ≠ 0 then stripZeros tries (digits / 10) (k + 1) else (digits, k)

/-- Digits and exponent of the shortest decimal of a positive number. Seventeen digits always
suffice; the last grid also covers a carry. -/
def shortest (x : Binary64) : Nat × Int :=
  let bounds := x.interval
  let (digits, k) :=
    (firstGrid? bounds 18 (decimalExponent x.num x.den)).getD (x.significand, x.exponent)
  stripZeros 20 digits k

/-- Positional notation, for `digits * 10^k`. -/
def positional (digits : String) (k : Int) : String :=
  let n : Int := digits.length
  if 0 ≤ k then digits ++ String.ofList (List.replicate k.toNat '0') ++ ".0"
  else if 0 < n + k then
    String.ofList (digits.toList.take (n + k).toNat) ++ "." ++
      String.ofList (digits.toList.drop (n + k).toNat)
  else "0." ++ String.ofList (List.replicate (-(n + k)).toNat '0') ++ digits

/-- Scientific notation, for `digits * 10^k`. The exponent of a large number has a plus sign. -/
def scientific (digits : String) (k : Int) : String :=
  let e : Int := k + digits.length - 1
  let tail := String.ofList (digits.toList.drop 1)
  String.ofList (digits.toList.take 1) ++ (if tail.isEmpty then "" else "." ++ tail) ++ "e" ++
    (if 0 ≤ e then "+" else "-") ++ toString e.natAbs

/-- The text of a number: the fewest digits that read back. -/
def text (x : Binary64) : String :=
  let sign := if x.negative then "-" else ""
  if x.isZero then sign ++ "0.0"
  else
    let (digits, k) := x.shortest
    let digits := toString digits
    let e : Int := k + digits.length - 1
    sign ++ (if -5 ≤ e ∧ e < 16 then positional digits k else scientific digits k)

end ChangeReview.Binary64
