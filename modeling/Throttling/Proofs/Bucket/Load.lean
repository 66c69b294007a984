import Throttling.Bucket
import Throttling.Proofs.Time
import Mathlib.Tactic.Linarith
import Mathlib.Tactic.Ring

/-!
# The load of a bucket

Whole units and carried fraction together are one number: the load, counted in fractions of
`1 / burstNanos`. A leak takes `capacity` fractions off it for each nanosecond, held at zero, and
every other operation adds or takes whole units. `WellFormed` is what all operations keep; under it
a bucket is determined by its load, the units in use being the load rounded up.
-/

set_option autoImplicit false

namespace Throttling.Bucket

/-- What every operation keeps, from the empty bucket on. -/
structure WellFormed (b : Bucket) : Prop where
  burst_pos : 0 < b.burstNanos
  burst_le : b.burstNanos ≤ Word.max64
  capacity_le : b.capacity ≤ Word.max64
  used_le : b.used ≤ b.capacity
  provisional_le : b.provisional ≤ b.used
  carry_lt : b.carry < b.burstNanos
  carry_of_empty : b.used = 0 → b.carry = 0
  carry_of_untimed : b.lastDecision = none → b.carry = 0

/-- What is in use, in fractions of `1 / burstNanos`. -/
def load (b : Bucket) : Nat := b.used * b.burstNanos - b.carry

/-- Nanoseconds over which the bucket leaks when it is looked at: none before the first decision,
and none when time stands still or goes backwards. -/
def elapsed (b : Bucket) (now : Timestamp) : Nat :=
  match b.lastDecision with
  | none => 0
  | some last => if now ≤ last then 0 else now.nanosSince last

/-- The time of the level at `now`: the later of `now` and the last decision. -/
def clock (b : Bucket) (now : Timestamp) : Timestamp :=
  match b.lastDecision with
  | none => now
  | some last => if now ≤ last then last else now

def loadAt (b : Bucket) (now : Timestamp) : Nat := b.load - b.elapsed now * b.capacity

variable {b : Bucket}

theorem new_wellFormed {capacity burstNanos : Nat} (hc : capacity ≤ Word.max64)
    (hb : burstNanos ≤ Word.max64) : (new capacity burstNanos).WellFormed where
  burst_pos := Nat.lt_of_lt_of_le Nat.zero_lt_one (Nat.le_max_right _ _)
  burst_le := Nat.max_le.mpr ⟨hb, by decide⟩
  capacity_le := hc
  used_le := Nat.zero_le _
  provisional_le := Nat.le_refl _
  carry_lt := Nat.lt_of_lt_of_le Nat.zero_lt_one (Nat.le_max_right _ _)
  carry_of_empty := fun _ => rfl
  carry_of_untimed := fun _ => rfl

theorem carry_le_used_mul (w : b.WellFormed) : b.carry ≤ b.used * b.burstNanos := by
  by_cases empty : b.used = 0
  · rw [w.carry_of_empty empty]
    exact Nat.zero_le _
  · have whole := Nat.le_mul_of_pos_left b.burstNanos (Nat.pos_of_ne_zero empty)
    have fraction := w.carry_lt
    omega

/-- The units in use are the load together with the fraction that has leaked of the last one. -/
theorem load_add_carry (w : b.WellFormed) : b.load + b.carry = b.used * b.burstNanos :=
  Nat.sub_add_cancel (carry_le_used_mul w)

theorem load_le (w : b.WellFormed) : b.load ≤ b.capacity * b.burstNanos :=
  Nat.le_trans (Nat.sub_le _ _) (Nat.mul_le_mul_right _ w.used_le)

theorem loadAt_le_load (b : Bucket) (now : Timestamp) : b.loadAt now ≤ b.load := Nat.sub_le _ _

private theorem le_max128 {elapsed capacity carry : Nat} (he : elapsed ≤ Word.max64)
    (hc : capacity ≤ Word.max64) (hr : carry ≤ Word.max64) :
    elapsed * capacity + carry ≤ Word.max128 := by
  have product : elapsed * capacity ≤ Word.max64 * Word.max64 := Nat.mul_le_mul he hc
  unfold Word.max64 at *
  unfold Word.max128
  omega

/-- Within a burst period the leak stays within its range. -/
theorem leak_total_le (w : b.WellFormed) {elapsed : Nat} (h : elapsed < b.burstNanos) :
    elapsed * b.capacity + b.carry ≤ Word.max128 := by
  have he : elapsed ≤ Word.max64 := Nat.le_trans (Nat.le_of_lt h) w.burst_le
  have hr : b.carry ≤ Word.max64 := Nat.le_trans (Nat.le_of_lt w.carry_lt) w.burst_le
  exact le_max128 he w.capacity_le hr

/-- Within a burst period no step of the leak saturates. -/
theorem leak_total_eq (w : b.WellFormed) {elapsed : Nat} (h : elapsed < b.burstNanos) :
    Word.saturate128 (Word.saturate128 (elapsed * b.capacity) + b.carry) =
      elapsed * b.capacity + b.carry := by
  have inRange := leak_total_le w h
  have product : elapsed * b.capacity ≤ Word.max128 := Nat.le_trans (Nat.le_add_right _ _) inRange
  rw [Word.saturate128_of_le product, Word.saturate128_of_le inRange]

/-- A partial leak takes the elapsed nanoseconds times the capacity off the load. -/
private theorem partial_leak {used carry burst leak : Nat} (hb : 0 < burst)
    (part : (leak + carry) / burst < used) :
    (used - (leak + carry) / burst) * burst =
      used * burst - carry - leak + (leak + carry) % burst := by
  have division := Nat.div_add_mod (leak + carry) burst
  have remainder := Nat.mod_lt (leak + carry) hb
  have whole : burst ≤ (used - (leak + carry) / burst) * burst :=
    Nat.le_mul_of_pos_left _ (by omega)
  rw [Nat.mul_comm] at division
  rw [Nat.sub_mul] at whole ⊢
  have bound := Nat.mul_le_mul_right burst (Nat.le_of_lt part)
  omega

/-- What a leak leaves: whole units and a fraction that add up to the leaked load. -/
structure LevelSpec (b : Bucket) (now : Timestamp) : Prop where
  load : (b.levelAt now).used * b.burstNanos = b.loadAt now + (b.levelAt now).carry
  carry_lt : (b.levelAt now).carry < b.burstNanos
  carry_of_empty : (b.levelAt now).used = 0 → (b.levelAt now).carry = 0
  used_le : (b.levelAt now).used ≤ b.used
  time : (b.levelAt now).time = b.clock now

private theorem levelSpec_still (w : b.WellFormed) (now time : Timestamp)
    (level : b.levelAt now = ⟨b.used, b.carry, time⟩) (still : b.elapsed now = 0)
    (clock : b.clock now = time) : b.LevelSpec now := by
  refine ⟨?_, ?_, ?_, ?_, ?_⟩
  · rw [level, loadAt, still, Nat.zero_mul, Nat.sub_zero]
    exact (load_add_carry w).symm
  · rw [level]
    exact w.carry_lt
  · rw [level]
    exact w.carry_of_empty
  · rw [level]
  · rw [level, clock]

private theorem levelSpec_emptied (w : b.WellFormed) {now : Timestamp}
    (level : b.levelAt now = ⟨0, 0, now⟩) (emptied : b.load ≤ b.elapsed now * b.capacity)
    (clock : b.clock now = now) : b.LevelSpec now := by
  have drained : b.loadAt now = 0 := Nat.sub_eq_zero_of_le emptied
  refine ⟨?_, ?_, ?_, ?_, ?_⟩
  · rw [level, drained]
    exact Nat.zero_mul _
  · rw [level]
    exact w.burst_pos
  · rw [level]
    exact fun _ => rfl
  · rw [level]
    exact Nat.zero_le _
  · rw [level, clock]

theorem levelSpec (w : b.WellFormed) (now : Timestamp) : b.LevelSpec now := by
  cases timed : b.lastDecision with
  | none =>
    exact levelSpec_still w now now (by simp [levelAt, timed]) (by simp [elapsed, timed])
      (by simp [clock, timed])
  | some last =>
    by_cases past : now ≤ last
    · exact levelSpec_still w now last (by simp [levelAt, timed, past])
        (by simp [elapsed, timed, past]) (by simp [clock, timed, past])
    have clock : b.clock now = now := by simp [clock, timed, past]
    have elapsed : b.elapsed now = now.nanosSince last := by simp [elapsed, timed, past]
    by_cases whole : b.burstNanos ≤ now.nanosSince last
    · -- a whole burst period takes at least the capacity off the load
      refine levelSpec_emptied w (by simp [levelAt, timed, past, whole]) ?_ clock
      rw [elapsed]
      calc
        b.load ≤ b.capacity * b.burstNanos := load_le w
        _ = b.burstNanos * b.capacity := Nat.mul_comm _ _
        _ ≤ now.nanosSince last * b.capacity := Nat.mul_le_mul_right _ whole
    have total := leak_total_eq w (Nat.lt_of_not_le whole)
    by_cases drained : b.used ≤ (now.nanosSince last * b.capacity + b.carry) / b.burstNanos
    · refine levelSpec_emptied w (by simp [levelAt, timed, past, whole, total, drained]) ?_ clock
      rw [elapsed, load]
      have leaked := (Nat.le_div_iff_mul_le w.burst_pos).mp drained
      omega
    have part := Nat.lt_of_not_le drained
    have small : (now.nanosSince last * b.capacity + b.carry) / b.burstNanos ≤ Word.max64 := by
      have := w.used_le
      have := w.capacity_le
      omega
    have level : b.levelAt now =
        ⟨b.used - (now.nanosSince last * b.capacity + b.carry) / b.burstNanos,
          (now.nanosSince last * b.capacity + b.carry) % b.burstNanos, now⟩ := by
      simp [levelAt, timed, past, whole, total, drained, Word.low64_of_le small]
    refine ⟨?_, ?_, ?_, ?_, ?_⟩
    · rw [level, loadAt, elapsed, load]
      exact partial_leak w.burst_pos part
    · rw [level]
      exact Nat.mod_lt _ w.burst_pos
    · rw [level]
      intro empty
      exact absurd part (Nat.not_lt.mpr (Nat.sub_eq_zero_iff_le.mp empty))
    · rw [level]
      exact Nat.sub_le _ _
    · rw [level, clock]

end Throttling.Bucket
