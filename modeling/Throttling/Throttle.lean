import Throttling.Bucket
import Throttling.Error

/-!
# Throttles

A throttle is a named bucket that meters one resource. Throttles of operations
run at a rate in milli-operations per second over a burst in milliseconds; their
buckets count micro-operations, so the capacity is the exact product of the two.
The other throttles draw in the unit of their resource, and their capacity is
the rate times a burst in whole seconds.
-/

set_option autoImplicit false

namespace Throttling

open Numeric (Double)

def nanosPerMilli : Nat := 1000000

def microsPerMilli : Nat := 1000

/-- Burst of a throttle that is configured with none, in seconds. -/
def defaultBurstSeconds : Nat := 1

structure Snapshot where
  used : Nat
  lastDecision : Option Timestamp
  deriving DecidableEq, Repr, Inhabited

structure Snapshots where
  /-- Operation throttles, in bucket order. -/
  operations : List Snapshot
  gas : Option Snapshot
  opsDuration : Option Snapshot
  deriving DecidableEq, Repr, Inhabited

structure Throttle where
  name : String
  kind : ResourceKind
  /-- Units per second; milli-operations per second for a throttle of operations. -/
  rate : Nat
  /-- Burst period as configured, in nanoseconds. -/
  burstNanos : Nat
  /-- Bucket units for one unit drawn. -/
  unitsPerAmount : Nat
  bucket : Bucket
  deriving DecidableEq, Repr, Inhabited

namespace Throttle

/-- A throttle of operations at `rate` milli-operations per second. It is malformed when the
capacity is out of range. -/
def operations (name : String) (rate burstMillis : Nat) : Except Error Throttle :=
  match Word.checked64 (rate * burstMillis) with
  | none => .error (.malformedBucket name (.capacityOverflow rate burstMillis))
  | some capacity =>
    let burstNanos := Word.saturate64 (burstMillis * nanosPerMilli)
    .ok { name, kind := .operations, rate, burstNanos, unitsPerAmount := microsPerMilli,
          bucket := .new capacity burstNanos }

def perSecond (kind : ResourceKind) (rate burstSeconds : Nat) : Throttle :=
  let burstSeconds := if burstSeconds = 0 then defaultBurstSeconds else burstSeconds
  let burstNanos := Word.saturate64 (burstSeconds * nanosPerSecond)
  { name := kind.name, kind, rate, burstNanos, unitsPerAmount := 1,
    bucket := .new (Word.saturate64 (rate * burstSeconds)) burstNanos }

def used (t : Throttle) : Nat := t.bucket.used

def capacity (t : Throttle) : Nat := t.bucket.capacity

/-- Bucket units for an amount. -/
def units (t : Throttle) (amount : Nat) : Nat := Word.saturate64 (amount * t.unitsPerAmount)

def draw? (t : Throttle) (now : Timestamp) (amount : Nat) : Option Throttle :=
  (t.bucket.draw? now (t.units amount)).map fun bucket => { t with bucket }

def rollback (t : Throttle) : Throttle := { t with bucket := t.bucket.rollback }

def commit (t : Throttle) : Throttle := { t with bucket := t.bucket.commit }

def refund (t : Throttle) (amount : Nat) : Throttle :=
  { t with bucket := t.bucket.refund (t.units amount) }

def revoke (t : Throttle) (amount : Nat) : Throttle :=
  { t with bucket := t.bucket.revoke (t.units amount) }

def free (t : Throttle) (now : Timestamp) : Nat := t.bucket.free now

def snapshot (t : Throttle) : Snapshot := ⟨t.bucket.used, t.bucket.lastDecision⟩

def restore (t : Throttle) (s : Snapshot) : Throttle :=
  { t with bucket := t.bucket.restore s.used s.lastDecision }

def percentUsed (t : Throttle) (now : Timestamp) : Double := t.bucket.percentUsed now

def percentUsedLast (t : Throttle) : Double := t.bucket.percentUsedLast

def describe (t : Throttle) : String :=
  match t.kind with
  | .operations =>
    let perSecond := (Double.ofNat t.rate).div (.ofNat 1000)
    t.name ++ " (" ++ perSecond.twoPlaces ++ " tps, " ++ toString (t.burstNanos / nanosPerMilli) ++
      "ms burst)"
  | kind =>
    kind.name ++ " throttle (" ++ toString t.rate ++ " " ++ kind.unit ++ "/sec, " ++
      toString (t.burstNanos / nanosPerSecond) ++ "s burst)"

end Throttle

end Throttling
