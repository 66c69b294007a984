import Throttling.Word

/-!
# Consensus time

Buckets see consensus time only, never a wall clock, so replicas that see the
same decisions compute the same leak. A timestamp is a count of seconds and of
nanoseconds within the second. Readers take the two parts as they stand, so the
nanosecond part may reach a full second; `Timestamp.ofParts` carries the excess
over. Times are ordered by the two parts, and elapsed time is measured in
nanoseconds.
-/

set_option autoImplicit false

namespace Throttling

def nanosPerSecond : Nat := 1000000000

structure Timestamp where
  seconds : Int
  nanos : Nat
  deriving DecidableEq, Repr, Inhabited

namespace Timestamp

def epoch : Timestamp := ⟨0, 0⟩

/-- A time whose nanosecond part is less than a second. -/
def Normal (t : Timestamp) : Prop := t.nanos < nanosPerSecond

instance (t : Timestamp) : Decidable t.Normal := inferInstanceAs (Decidable (_ < _))

/-- A time from its parts, whole seconds among the nanoseconds carried over. -/
def ofParts (seconds : Int) (nanos : Nat) : Timestamp :=
  ⟨Word.saturateSigned64 (seconds + (nanos / nanosPerSecond : Nat)), nanos % nanosPerSecond⟩

def ofSeconds (seconds : Int) : Timestamp := ⟨seconds, 0⟩

def toNanos (t : Timestamp) : Int := t.seconds * nanosPerSecond + t.nanos

/-- Earlier or equal, the seconds deciding first. -/
def le (a b : Timestamp) : Bool :=
  decide (a.seconds < b.seconds) || (decide (a.seconds = b.seconds) && decide (a.nanos ≤ b.nanos))

instance : LE Timestamp := ⟨fun a b => a.le b⟩

instance (a b : Timestamp) : Decidable (a ≤ b) := inferInstanceAs (Decidable (a.le b = true))

def order (a b : Timestamp) : Ordering :=
  if a = b then .eq else if a ≤ b then .lt else .gt

/-- Nanoseconds from `earlier` to `t`, none if time went backwards. -/
def nanosSince (t earlier : Timestamp) : Nat := (t.toNanos - earlier.toNanos).toNat

/-- The time `nanos` nanoseconds later, held at the last representable second. -/
def plusNanos (t : Timestamp) (nanos : Nat) : Timestamp :=
  let total := t.nanos + nanos % nanosPerSecond
  let whole := Word.saturateSigned64 (t.seconds + (nanos / nanosPerSecond : Nat))
  ⟨Word.saturateSigned64 (whole + (total / nanosPerSecond : Nat)), total % nanosPerSecond⟩

/-- The time a number of whole seconds later, held within the representable seconds. -/
def plusSeconds (t : Timestamp) (seconds : Int) : Timestamp :=
  ⟨Word.saturateSigned64 (t.seconds + seconds), t.nanos⟩

/-- Seconds, a point, and at least nine digits of nanoseconds. -/
def render (t : Timestamp) : String :=
  let digits := toString t.nanos
  toString t.seconds ++ "." ++ String.ofList (List.replicate (9 - digits.length) '0') ++ digits

theorem le_iff {a b : Timestamp} :
    a ≤ b ↔ a.seconds < b.seconds ∨ (a.seconds = b.seconds ∧ a.nanos ≤ b.nanos) := by
  show a.le b = true ↔ _
  simp [le]

theorem ofParts_normal (seconds : Int) (nanos : Nat) : (ofParts seconds nanos).Normal :=
  Nat.mod_lt _ (by decide)

theorem plusNanos_normal (t : Timestamp) (nanos : Nat) : (t.plusNanos nanos).Normal :=
  Nat.mod_lt _ (by decide)

end Timestamp

end Throttling
