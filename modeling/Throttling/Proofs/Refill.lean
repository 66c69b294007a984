import Throttling.Proofs.Bucket.Fluid
import Throttling.Proofs.Definitions

/-!
# The rate at which a throttle refills

A bucket refills by its capacity in each burst period. For a new throttle this is the configured
rate, over any time and whatever is drawn, as long as capacity and burst period are the exact
products that they are made of. A product that is out of range is held at the limit, and then the
two are in another proportion (`new_refillsAt_rate_iff`).
-/

set_option autoImplicit false

namespace Throttling

namespace Bucket

/-- The exact level after leaking up to `now`: the units in use less the fraction that has leaked of
the last one. -/
def exactLevelAt (b : Bucket) (now : Timestamp) : ℚ :=
  (b.levelAt now).used - (b.levelAt now).carry / b.burstNanos

/-- A bucket refills by `units` every `nanos` nanoseconds. -/
structure RefillsAt (b : Bucket) (units nanos : Nat) : Prop where
  ratio : b.capacity * nanos = units * b.burstNanos
  /-- Whatever has been done to the bucket, the units that leak away over some time are the rate
  times this time, as far as there are any in use. -/
  leaks : ∀ (ops : List Op) (now : Timestamp), (b.run ops).exactLevelAt now =
    max 0 ((b.run ops).level - units * (b.run ops).elapsed now / nanos)

variable {b : Bucket} {units nanos : Nat}

theorem exactLevelAt_eq (w : b.WellFormed) (now : Timestamp) :
    b.exactLevelAt now = max 0 (b.level - b.capacity * b.elapsed now / b.burstNanos) := by
  have nonzero : (b.burstNanos : ℚ) ≠ 0 := Nat.cast_ne_zero.mpr (Nat.ne_of_gt w.burst_pos)
  have whole : ((b.levelAt now).used : ℚ) * b.burstNanos =
      b.loadAt now + (b.levelAt now).carry := by
    exact_mod_cast (levelSpec w now).load
  rw [← loadAt_div_eq w, exactLevelAt, eq_div_iff nonzero, sub_mul, div_mul_cancel₀ _ nonzero]
  linarith

/-- The proportion of capacity and burst period alone decides on the rate. -/
theorem refillsAt_iff (w : b.WellFormed) (positive : 0 < nanos) :
    b.RefillsAt units nanos ↔ b.capacity * nanos = units * b.burstNanos := by
  refine ⟨RefillsAt.ratio, fun ratio => ⟨ratio, fun ops now => ?_⟩⟩
  have burst_pos : (b.burstNanos : ℚ) ≠ 0 := Nat.cast_ne_zero.mpr (Nat.ne_of_gt w.burst_pos)
  have nanos_pos : (nanos : ℚ) ≠ 0 := Nat.cast_ne_zero.mpr (Nat.ne_of_gt positive)
  have rate : (b.capacity : ℚ) / b.burstNanos = units / nanos := by
    rw [div_eq_div_iff burst_pos nanos_pos]
    exact_mod_cast ratio
  rw [exactLevelAt_eq (run_wellFormed w ops), capacity_run, burstNanos_run, mul_div_right_comm,
    rate, mul_div_right_comm]

end Bucket

/-! ## Products held at a limit -/

/-- A rate over a number of periods and the length of the periods, each held at a limit, are in the
proportion of the rate and one period if neither is held, if the rate is zero, or if the rate is the
length of a period, so that the two are the same product. -/
private theorem held_ratio_iff {rate periods length limit : Nat} (length_pos : 0 < length)
    (limit_pos : 0 < limit) :
    min (rate * periods) limit * length = rate * min (periods * length) limit ↔
      rate = 0 ∨ rate = length ∨ rate * periods ≤ limit ∧ periods * length ≤ limit := by
  have both : rate * periods * length = rate * (periods * length) := Nat.mul_assoc _ _ _
  have zero (held : limit < rate * periods) : rate ≠ 0 := by
    rintro rfl
    omega
  have same (eq : rate = length) : rate * periods = periods * length := by
    rw [eq, Nat.mul_comm]
  rcases Nat.lt_or_ge limit (rate * periods) with capacity | capacity <;>
    rcases Nat.lt_or_ge limit (periods * length) with burst | burst
  · rw [Nat.min_eq_right capacity.le, Nat.min_eq_right burst.le, Nat.mul_comm rate,
      Nat.mul_right_inj (Nat.ne_of_gt limit_pos)]
    have := zero capacity
    omega
  · rw [Nat.min_eq_right capacity.le, Nat.min_eq_left burst, ← both,
      Nat.mul_left_inj (Nat.ne_of_gt length_pos)]
    have := zero capacity
    omega
  · rw [Nat.min_eq_left capacity, Nat.min_eq_right burst.le, both, mul_eq_mul_left_iff]
    omega
  · rw [Nat.min_eq_left capacity, Nat.min_eq_left burst]
    exact iff_of_true both (Or.inr (Or.inr ⟨capacity, burst⟩))

/-! ## New throttles -/

def Throttle.burstSecondsOf (configured : Nat) : Nat :=
  if configured = 0 then defaultBurstSeconds else configured

/-- A new throttle of operations refills at its rate, which is in micro-operations a millisecond,
unless the burst period is out of range. -/
theorem Throttle.refillsAt_of_operations {name : String} {rate burstMillis : Nat} {t : Throttle}
    (positive : 0 < burstMillis) (built : Throttle.operations name rate burstMillis = .ok t) :
    t.bucket.RefillsAt rate nanosPerMilli ↔
      rate = 0 ∨ burstMillis * nanosPerMilli ≤ Word.max64 := by
  obtain ⟨inRange, rfl⟩ := Throttle.operations_eq_ok built
  have period : 1 ≤ Word.saturate64 (burstMillis * nanosPerMilli) :=
    Nat.le_min.mpr ⟨Nat.mul_pos positive (by decide), by decide⟩
  have ratio : rate * burstMillis * nanosPerMilli =
      rate * Word.saturate64 (burstMillis * nanosPerMilli) ↔ _ :=
    Nat.min_eq_left inRange ▸ held_ratio_iff (by decide) (by decide)
  rw [Bucket.refillsAt_iff (Bucket.new_wellFormed inRange (Word.saturate64_le _)) (by decide)]
  simp only [Bucket.new, Nat.max_eq_left period]
  refine ratio.trans ⟨?_, ?_⟩
  · rintro (none | same | ⟨-, burst⟩)
    · exact Or.inl none
    · exact Or.inr (by rwa [same, Nat.mul_comm] at inRange)
    · exact Or.inr burst
  · exact Or.imp_right fun burst => Or.inr ⟨inRange, burst⟩

/-- A new throttle of some resource refills at its rate exactly if neither its capacity nor its
burst period is out of range, but for a rate of zero and one unit each nanosecond. -/
theorem Throttle.refillsAt_of_perSecond (kind : ResourceKind) (rate burstSeconds : Nat) :
    (Throttle.perSecond kind rate burstSeconds).bucket.RefillsAt rate nanosPerSecond ↔
      rate = 0 ∨ rate = nanosPerSecond ∨
        rate * Throttle.burstSecondsOf burstSeconds ≤ Word.max64 ∧
          Throttle.burstSecondsOf burstSeconds * nanosPerSecond ≤ Word.max64 := by
  have positive : 0 < Throttle.burstSecondsOf burstSeconds := by
    unfold Throttle.burstSecondsOf
    split
    · decide
    · omega
  have period : 1 ≤ Word.saturate64 (Throttle.burstSecondsOf burstSeconds * nanosPerSecond) :=
    Nat.le_min.mpr ⟨Nat.mul_pos positive (by decide), by decide⟩
  rw [Bucket.refillsAt_iff (Throttle.perSecond_wellFormed kind rate burstSeconds) (by decide),
    ← held_ratio_iff (by decide) (by decide)]
  change Word.saturate64 (rate * Throttle.burstSecondsOf burstSeconds) * nanosPerSecond =
    rate * max (Word.saturate64 (Throttle.burstSecondsOf burstSeconds * nanosPerSecond)) 1 ↔ _
  rw [Nat.max_eq_left period]
  rfl

/-- Every new throttle refills at its configured rate, over any time and whatever is drawn from it,
if the products that make up its capacity and its burst period are in range. Otherwise it does not,
save for a rate of zero and for one unit each nanosecond. -/
theorem new_refillsAt_rate_iff :
    (∀ {name : String} {rate burstMillis : Nat} {t : Throttle}, 0 < burstMillis →
      Throttle.operations name rate burstMillis = .ok t →
        (t.bucket.RefillsAt rate nanosPerMilli ↔
          rate = 0 ∨ burstMillis * nanosPerMilli ≤ Word.max64)) ∧
    ∀ (kind : ResourceKind) (rate burstSeconds : Nat),
      ((Throttle.perSecond kind rate burstSeconds).bucket.RefillsAt rate nanosPerSecond ↔
        rate = 0 ∨ rate = nanosPerSecond ∨
          rate * Throttle.burstSecondsOf burstSeconds ≤ Word.max64 ∧
            Throttle.burstSecondsOf burstSeconds * nanosPerSecond ≤ Word.max64) :=
  ⟨Throttle.refillsAt_of_operations, Throttle.refillsAt_of_perSecond⟩

/-- A throttle of ten and a half operations a second over a burst of a second and a half, and one of
three gas a second without a configured burst: nine tenths of a second after all of it was drawn,
three tenths of a unit are still in use. -/
theorem new_refillsAt_rate_iff_fractions :
    let gas := Throttle.perSecond .gas 3 0
    (∃ t, Throttle.operations "calls" 10500 1500 = .ok t ∧
        t.bucket.RefillsAt 10500 nanosPerMilli) ∧
      gas.bucket.RefillsAt 3 nanosPerSecond ∧
      (gas.bucket.run [.draw ⟨100, 0⟩ 3]).exactLevelAt ⟨100, 900000000⟩ = 3 / 10 := by
  intro gas
  obtain ⟨operations, perSecond⟩ := new_refillsAt_rate_iff
  obtain ⟨t, built⟩ : ∃ t, Throttle.operations "calls" 10500 1500 = .ok t := ⟨_, rfl⟩
  have refills := (perSecond .gas 3 0).mpr (Or.inr (Or.inr (by decide)))
  refine ⟨⟨t, built, (operations (by decide) built).mpr (Or.inr (by decide))⟩, refills, ?_⟩
  have used : (gas.bucket.run [.draw ⟨100, 0⟩ 3]).used = 3 := by decide
  have carry : (gas.bucket.run [.draw ⟨100, 0⟩ 3]).carry = 0 := by decide
  have elapsed : (gas.bucket.run [.draw ⟨100, 0⟩ 3]).elapsed ⟨100, 900000000⟩ = 900000000 := by
    decide
  rw [refills.leaks, Bucket.level, used, carry, elapsed]
  norm_num [nanosPerSecond]

/-- Neither kind of throttle always has its capacity and burst period in the proportion of its rate:
for one the burst period is held at the limit, for the other the capacity. -/
theorem held_products_change_the_rate :
    (¬ ∀ {name : String} {rate burstMillis : Nat} {t : Throttle}, 0 < burstMillis →
      Throttle.operations name rate burstMillis = .ok t →
        t.bucket.capacity * nanosPerMilli = rate * t.bucket.burstNanos) ∧
    ¬ ∀ (kind : ResourceKind) (rate burstSeconds : Nat),
      (Throttle.perSecond kind rate burstSeconds).bucket.capacity * nanosPerSecond =
        rate * (Throttle.perSecond kind rate burstSeconds).bucket.burstNanos := by
  constructor
  · intro exact
    obtain ⟨t, built⟩ : ∃ t, Throttle.operations "calls" 1 Word.max64 = .ok t := ⟨_, rfl⟩
    have ratio := exact (by decide) built
    obtain ⟨-, rfl⟩ := Throttle.operations_eq_ok built
    exact absurd ratio (by decide)
  · intro exact
    exact absurd (exact .gas Word.max64 10) (by decide)

end Throttling
