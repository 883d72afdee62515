import ChangeReview.Number.Binary64
import ChangeReview.Json.Value

/-!
# Time and memory of a run

The measures attached to a run: whole milliseconds, the share of the total that scanning and the
model took, and the change in memory. Shares and memory are rounded to one decimal, halves away
from zero. A number that leaves the range of doubles is `none`.
-/

namespace ChangeReview

/-- A length of time. -/
structure Duration where
  seconds : Nat
  nanoseconds : Nat
  deriving DecidableEq, Repr

namespace Duration

/-- Whole milliseconds, in 64 bits. -/
def milliseconds (d : Duration) : Nat :=
  (d.seconds * 1000 + d.nanoseconds / 1000000) % Nat.pow 2 64

def isZero (d : Duration) : Bool := d.seconds == 0 && d.nanoseconds == 0

/-- The length in seconds, as a double. -/
def inSeconds (d : Duration) : Option Binary64 := do
  let fraction ← (Binary64.ofNat d.nanoseconds).div? (Binary64.ofNat 1000000000)
  (Binary64.ofNat d.seconds).add? fraction

end Duration

namespace Performance

/-- The nearest integer as a double, keeping the sign of zero. -/
def roundWhole (x : Binary64) : Binary64 :=
  { Binary64.ofNat x.round.natAbs with negative := x.negative }

/-- Rounded to one decimal. -/
def roundTenth (x : Binary64) : Option Binary64 := do
  let tenfold ← x.mul? (Binary64.ofNat 10)
  (roundWhole tenfold).div? (Binary64.ofNat 10)

/-- Bring a number into the range from zero to one hundred. -/
def clampPercent (x : Binary64) : Binary64 :=
  if x.lt (Binary64.ofNat 0) then Binary64.ofNat 0
  else if (Binary64.ofNat 100).lt x then Binary64.ofNat 100
  else x

/-- The share of a part, in percent. -/
def percent (part total : Binary64) : Option Binary64 := do
  let ratio ← part.div? total
  let share ← ratio.mul? (Binary64.ofNat 100)
  roundTenth (clampPercent share)

/-- What two shares leave of one hundred percent. -/
def remainder (a b : Binary64) : Option Binary64 := do
  let rest ← (Binary64.ofNat 100).sub? a
  let rest ← rest.sub? b
  roundTenth (if rest.lt (Binary64.ofNat 0) then Binary64.ofNat 0 else rest)

end Performance

/-- Shares of the total time, in percent. -/
structure TimeBreakdown where
  scan : Option Binary64
  model : Option Binary64
  other : Option Binary64
  deriving DecidableEq, Repr

/-- The measures of a run. -/
structure Performance where
  scan : Nat
  model : Nat
  total : Nat
  memoryDelta : Option Binary64
  breakdown : TimeBreakdown
  deriving DecidableEq, Repr

namespace Performance

/-- The shares of a run that took no time. -/
def noShares : TimeBreakdown :=
  ⟨some (Binary64.ofNat 0), some (Binary64.ofNat 0), some (Binary64.ofNat 0)⟩

/-- Shares of a positive total. -/
def shares (scan model total : Duration) : Option TimeBreakdown := do
  let whole ← total.inSeconds
  let scan ← percent (← scan.inSeconds) whole
  let model ← percent (← model.inSeconds) whole
  some ⟨some scan, some model, remainder scan model⟩

/-- The measures from the durations of a run and its change in memory. -/
def ofDurations (scan model total : Duration) (memory : Binary64) : Performance where
  scan := scan.milliseconds
  model := model.milliseconds
  total := total.milliseconds
  memoryDelta := roundTenth memory
  breakdown := if total.isZero then noShares else (shares scan model total).getD noShares

/-- A double, or nothing for one out of range. -/
def realJson (x : Option Binary64) : Json.Value :=
  .ofOption (x.map fun x => .number (.real x))

def toJson (p : Performance) : Json.Value := .ofPairs [
  ("scan_ms", .ofNat p.scan),
  ("model_ms", .ofNat p.model),
  ("total_ms", .ofNat p.total),
  ("memory_delta_mb", realJson p.memoryDelta),
  ("breakdown", .ofPairs [
    ("scan_pct", realJson p.breakdown.scan),
    ("model_pct", realJson p.breakdown.model),
    ("other_pct", realJson p.breakdown.other)])]

end Performance

end ChangeReview
