import Throttling.Proofs.Bucket.Operations

/-!
# No step leaves its range

The numbers of a bucket have 64 bits, those of a leak 128, and none is negative. At these limits a
leak is held, a quotient loses its high bits, and a difference stops at zero. Here every such step
is refused instead. A well-formed bucket cannot tell the two apart (`WellFormed.exact`): nothing
that is done to it comes to a limit, whatever the time, the amounts and the levels restored.
-/

set_option autoImplicit false

namespace Throttling

namespace Word

/-- An intermediate product that must fit 128 bits; `none` when it does not. -/
def checked128 (n : Nat) : Option Nat := if n ≤ max128 then some n else none

def checkedSub (n m : Nat) : Option Nat := if m ≤ n then some (n - m) else none

theorem checked64_of_le {n : Nat} (h : n ≤ max64) : checked64 n = some n := if_pos h

theorem checked128_of_le {n : Nat} (h : n ≤ max128) : checked128 n = some n := if_pos h

theorem checkedSub_of_le {n m : Nat} (h : m ≤ n) : checkedSub n m = some (n - m) := if_pos h

end Word

namespace Bucket

/-- The level after leaking up to `now`; `none` where a step leaves its range. -/
def levelAt? (b : Bucket) (now : Timestamp) : Option Level :=
  match b.lastDecision with
  | none => some ⟨b.used, b.carry, now⟩
  | some last =>
    if now ≤ last then some ⟨b.used, b.carry, last⟩
    else
      let elapsed := now.nanosSince last
      if b.burstNanos ≤ elapsed then some ⟨0, 0, now⟩
      else do
        let product ← Word.checked128 (elapsed * b.capacity)
        let total ← Word.checked128 (product + b.carry)
        let leaked := total / b.burstNanos
        if b.used ≤ leaked then some ⟨0, 0, now⟩
        else do
          let used ← Word.checkedSub b.used (← Word.checked64 leaked)
          some ⟨used, total % b.burstNanos, now⟩

def free? (b : Bucket) (now : Timestamp) : Option Nat := do
  Word.checkedSub b.capacity (← b.levelAt? now).used

def release? (b : Bucket) (units : Nat) : Option Bucket := do
  let used ← Word.checkedSub b.used units
  some { b with used, carry := if used = 0 then 0 else b.carry }

def drawStep? (b : Bucket) (now : Timestamp) (units : Nat) : Option Bucket :=
  if b.capacity = 0 then some b
  else do
    let level ← b.levelAt? now
    let next := level.used + units
    if next ≤ b.capacity then do
      let provisional ← Word.checked64 (min b.provisional level.used + units)
      some { b with
        used := next
        carry := if next = 0 then 0 else level.carry
        lastDecision := some level.time
        provisional }
    else some b

/-- The bucket after an operation; `none` where a step leaves its range. Refunds and revocations
are cut to what is in use, rollbacks are not. -/
def step? (b : Bucket) : Op → Option Bucket
  | .draw now units => b.drawStep? now units
  | .rollback => do some { (← b.release? b.provisional) with provisional := 0 }
  | .commit => some b.commit
  | .refund units => do
    let b ← b.release? (min units b.used)
    some { b with provisional := min b.provisional b.used }
  | .revoke units => do
    let provisional := b.provisional - min units b.used
    some { (← b.release? (min units b.used)) with provisional }
  | .restore used lastDecision => some (b.restore used lastDecision)

/-- Nothing that is asked of the bucket, and nothing that is done to it, comes to a limit. -/
structure Exact (b : Bucket) : Prop where
  level : ∀ now, b.levelAt? now = some (b.levelAt now)
  free : ∀ now, b.free? now = some (b.free now)
  step : ∀ op, b.step? op = some (b.apply op)

namespace WellFormed

variable {b : Bucket}

theorem levelAt?_eq (w : b.WellFormed) (now : Timestamp) :
    b.levelAt? now = some (b.levelAt now) := by
  unfold levelAt? levelAt
  cases b.lastDecision with
  | none => rfl
  | some last =>
    dsimp only
    by_cases past : now ≤ last
    · rw [if_pos past, if_pos past]
    rw [if_neg past, if_neg past]
    by_cases whole : b.burstNanos ≤ now.nanosSince last
    · rw [if_pos whole, if_pos whole]
    rw [if_neg whole, if_neg whole, leak_total_eq w (Nat.lt_of_not_le whole)]
    have inRange := leak_total_le w (Nat.lt_of_not_le whole)
    have product := Nat.le_trans (Nat.le_add_right _ b.carry) inRange
    simp only [Word.checked128_of_le product, Word.checked128_of_le inRange, Option.bind_eq_bind,
      Option.bind_some]
    by_cases drained : b.used ≤ (now.nanosSince last * b.capacity + b.carry) / b.burstNanos
    · rw [if_pos drained, if_pos drained]
    rw [if_neg drained, if_neg drained]
    -- what leaks is less than what is in use, which has 64 bits
    have part := Nat.le_of_lt (Nat.lt_of_not_le drained)
    have small := Nat.le_trans part (Nat.le_trans w.used_le w.capacity_le)
    simp only [Word.checked64_of_le small, Word.low64_of_le small, Word.checkedSub_of_le part,
      Option.bind_some]

theorem free?_eq (w : b.WellFormed) (now : Timestamp) : b.free? now = some (b.free now) := by
  rw [free?, levelAt?_eq w]
  exact Word.checkedSub_of_le (levelAt_used_le_capacity w now)

theorem release?_eq {units : Nat} (inUse : units ≤ b.used) :
    b.release? units = some (b.release units) := by
  rw [release?, Word.checkedSub_of_le inUse]
  rfl

theorem drawStep?_eq (w : b.WellFormed) (now : Timestamp) (units : Nat) :
    b.drawStep? now units = some ((b.draw? now units).getD b) := by
  unfold drawStep? draw?
  by_cases none : b.capacity = 0
  · rw [if_pos none, if_pos none]
    rfl
  rw [if_neg none, if_neg none, levelAt?_eq w]
  simp only [Option.bind_eq_bind, Option.bind_some]
  by_cases fits : (b.levelAt now).used + units ≤ b.capacity
  · rw [if_pos fits, if_pos fits]
    have recorded : min b.provisional (b.levelAt now).used + units ≤ Word.max64 := by
      have := w.capacity_le
      omega
    rw [Word.checked64_of_le recorded, Word.saturate64_of_le recorded]
    rfl
  · rw [if_neg fits, if_neg fits]
    rfl

theorem release_min (b : Bucket) (units : Nat) :
    b.release (min units b.used) = b.release units := by
  have same : b.used - min units b.used = b.used - units := by omega
  simp only [release, same]

theorem step?_eq (w : b.WellFormed) (op : Op) : b.step? op = some (b.apply op) := by
  cases op with
  | draw now units => exact drawStep?_eq w now units
  | rollback =>
    rw [step?, release?_eq w.provisional_le]
    rfl
  | refund units =>
    rw [step?, release?_eq (Nat.min_le_right units b.used), release_min]
    rfl
  | revoke units =>
    rw [step?, release?_eq (Nat.min_le_right units b.used), release_min]
    rfl
  | commit | restore used lastDecision => rfl

/-- A well-formed bucket does not come to a limit. -/
theorem exact (w : b.WellFormed) : b.Exact where
  level := levelAt?_eq w
  free := free?_eq w
  step := step?_eq w

end WellFormed

end Bucket

end Throttling
