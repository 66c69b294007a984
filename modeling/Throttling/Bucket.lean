import Throttling.Timestamp
import Throttling.Numeric.Double

/-!
# The leaky bucket

A bucket holds `capacity` units that refill continuously over one burst period.
What is in use leaks away in proportion to the consensus time since the last
decision. The part of a leak that is less than a unit is carried to the next
one, in fractions of `1 / burstNanos`, so the amount that leaks over an interval
does not depend on how many decisions fall into it.

Units that a draw grants are provisional until `Bucket.commit`. Before that,
`Bucket.rollback` hands them back, which is how a decision that draws from
several buckets is undone when it ends in a denial. Units that leaked away in
between are no longer there to be handed back.
-/

set_option autoImplicit false

namespace Throttling

open Numeric (Double)

structure Bucket where
  /-- Units available over one burst period. -/
  capacity : Nat
  /-- Length of the burst period in nanoseconds. -/
  burstNanos : Nat
  /-- Units in use. -/
  used : Nat
  /-- Part of a unit that has leaked already, in fractions of `1 / burstNanos`. -/
  carry : Nat
  /-- Consensus time of the latest leak. -/
  lastDecision : Option Timestamp
  /-- Units granted since the last commit. -/
  provisional : Nat
  deriving DecidableEq, Repr, Inhabited

namespace Bucket

/-- An empty bucket. A burst period of no length counts as one nanosecond. -/
def new (capacity burstNanos : Nat) : Bucket :=
  { capacity, burstNanos := max burstNanos 1, used := 0, carry := 0, lastDecision := none,
    provisional := 0 }

/-- What is in use at some time: whole units, the carried fraction, and the time itself. -/
structure Level where
  used : Nat
  carry : Nat
  time : Timestamp
  deriving DecidableEq, Repr

/-- The level after leaking up to `now`. Time that stands still or goes backwards leaks nothing,
and a whole burst period empties the bucket. -/
def levelAt (b : Bucket) (now : Timestamp) : Level :=
  match b.lastDecision with
  | none => ⟨b.used, b.carry, now⟩
  | some last =>
    if now ≤ last then ⟨b.used, b.carry, last⟩
    else
      let elapsed := now.nanosSince last
      if b.burstNanos ≤ elapsed then ⟨0, 0, now⟩
      else
        let total := Word.saturate128 (Word.saturate128 (elapsed * b.capacity) + b.carry)
        let leaked := total / b.burstNanos
        if b.used ≤ leaked then ⟨0, 0, now⟩
        else ⟨b.used - Word.low64 leaked, total % b.burstNanos, now⟩

/-- Leak up to `now`, then draw `units` if they fit. `none` is a denial. A bucket without capacity
denies every draw. -/
def draw? (b : Bucket) (now : Timestamp) (units : Nat) : Option Bucket :=
  if b.capacity = 0 then none
  else
    let level := b.levelAt now
    let next := level.used + units
    if next ≤ b.capacity then
      some { b with
        used := next
        carry := if next = 0 then 0 else level.carry
        lastDecision := some level.time
        provisional := Word.saturate64 (min b.provisional level.used + units) }
    else none

/-- Take `units` out of use, or all that is in use if that is less. An empty bucket carries no
fraction. -/
def release (b : Bucket) (units : Nat) : Bucket :=
  let used := b.used - units
  { b with used, carry := if used = 0 then 0 else b.carry }

/-- Hand back every unit granted since the last commit. The time of the decision is kept, so the
same draw at the same instant sees no further leak and is answered alike. -/
def rollback (b : Bucket) : Bucket :=
  { b.release b.provisional with provisional := 0 }

/-- Make the units granted since the last commit permanent. -/
def commit (b : Bucket) : Bucket := { b with provisional := 0 }

/-- Free up to `units` for good. Provisional units above what is then in use are forgotten. -/
def refund (b : Bucket) (units : Nat) : Bucket :=
  let b := b.release units
  { b with provisional := min b.provisional b.used }

/-- Take back `units` granted earlier in the decision under way. -/
def revoke (b : Bucket) (units : Nat) : Bucket :=
  { b.release units with provisional := b.provisional - min units b.used }

/-- Set what is in use, at most the capacity, and the time of the last decision. Nothing stays
provisional. -/
def restore (b : Bucket) (used : Nat) (lastDecision : Option Timestamp) : Bucket :=
  { b with used := min used b.capacity, lastDecision, carry := 0, provisional := 0 }

def free (b : Bucket) (now : Timestamp) : Nat := b.capacity - (b.levelAt now).used

/-- `used` as a percentage of `capacity`; a bucket without capacity counts as full. -/
def percent (used capacity : Nat) : Double :=
  if capacity = 0 then .ofNat 100
  else (Double.mul (.ofNat 100) (.ofNat used)).div (.ofNat capacity)

def percentUsed (b : Bucket) (now : Timestamp) : Double := percent (b.levelAt now).used b.capacity

def percentUsedLast (b : Bucket) : Double := percent b.used b.capacity

end Bucket

end Throttling
