import Throttling.Proofs.Bucket.Operations
import Mathlib.Algebra.Order.Floor.Semiring
import Mathlib.Data.Rat.Floor
import Mathlib.Tactic.FieldSimp
import Mathlib.Tactic.Positivity

/-!
# The fluid bucket

A leaky bucket in exact rational arithmetic: its level is a rational number, it drains at
`capacity / burstNanos` for each nanosecond, and nothing is rounded. A bucket of whole units and a
carried fraction simulates it: from the empty bucket on, every run gives the same verdicts and the
same level, and the units in use are the level rounded up (`run_simulates_fluid`). So the rounding
never turns a verdict.
-/

set_option autoImplicit false

namespace Throttling

/-- A leaky bucket that holds a rational quantity. -/
structure Fluid where
  capacity : Nat
  burstNanos : Nat
  level : ℚ
  lastDecision : Option Timestamp
  /-- Units granted since the last commit. -/
  provisional : Nat

namespace Fluid

def new (capacity burstNanos : Nat) : Fluid :=
  { capacity, burstNanos := max burstNanos 1, level := 0, lastDecision := none, provisional := 0 }

/-- Nanoseconds from the last decision to `now`: none before the first decision, and none if `now`
is not later. -/
def elapsed (f : Fluid) (now : Timestamp) : Nat :=
  match f.lastDecision with
  | none => 0
  | some last => (now.toNanos - last.toNanos).toNat

def clock (f : Fluid) (now : Timestamp) : Timestamp :=
  match f.lastDecision with
  | none => now
  | some last => if now.toNanos ≤ last.toNanos then last else now

/-- The level at `now`: lowered in proportion to the elapsed time, and never below zero. -/
def leaked (f : Fluid) (now : Timestamp) : ℚ :=
  max 0 (f.level - f.capacity * f.elapsed now / f.burstNanos)

/-- Leak up to `now` and add `units` if they fit; a bucket without capacity takes none. -/
def draw? (f : Fluid) (now : Timestamp) (units : Nat) : Option Fluid :=
  if 0 < f.capacity ∧ f.leaked now + units ≤ f.capacity then
    some { f with
      level := f.leaked now + units
      lastDecision := some (f.clock now)
      provisional := min f.provisional ⌈f.leaked now⌉₊ + units }
  else none

def lower (f : Fluid) (units : Nat) : Fluid := { f with level := max 0 (f.level - units) }

/-- The bucket after an operation; a denied draw leaves it as it was. -/
def apply (f : Fluid) : Bucket.Op → Fluid
  | .draw now units => (f.draw? now units).getD f
  | .rollback => { f.lower f.provisional with provisional := 0 }
  | .commit => { f with provisional := 0 }
  | .refund units =>
    { f.lower units with provisional := min f.provisional ⌈(f.lower units).level⌉₊ }
  | .revoke units =>
    { f.lower units with provisional := f.provisional - min units ⌈f.level⌉₊ }
  | .restore used lastDecision =>
    { f with level := (min used f.capacity : Nat), lastDecision, provisional := 0 }

def grants (f : Fluid) : Bucket.Op → Bool
  | .draw now units => (f.draw? now units).isSome
  | _ => true

def run (f : Fluid) (ops : List Bucket.Op) : Fluid := ops.foldl apply f

def verdicts (f : Fluid) : List Bucket.Op → List Bool
  | [] => []
  | op :: ops => f.grants op :: (f.apply op).verdicts ops

end Fluid

namespace Bucket

/-- The exact level: the units in use less the fraction that has leaked already. -/
def level (b : Bucket) : ℚ := b.used - b.carry / b.burstNanos

def toFluid (b : Bucket) : Fluid :=
  { capacity := b.capacity
    burstNanos := b.burstNanos
    level := b.level
    lastDecision := b.lastDecision
    provisional := b.provisional }

variable {b : Bucket}

private theorem burst_ne_zero (w : b.WellFormed) : (b.burstNanos : ℚ) ≠ 0 :=
  Nat.cast_ne_zero.mpr (Nat.ne_of_gt w.burst_pos)

/-- The level is the load in whole units. -/
theorem level_eq_load_div (w : b.WellFormed) : b.level = b.load / b.burstNanos := by
  have nonzero := burst_ne_zero w
  have whole : (b.load : ℚ) + b.carry = b.used * b.burstNanos := by
    exact_mod_cast load_add_carry w
  rw [level, eq_div_iff nonzero, sub_mul, div_mul_cancel₀ _ nonzero]
  linarith

/-- Subtraction held at zero, read in whole units. -/
private theorem div_tsub {burst : ℚ} (hb : 0 < burst) (load less : Nat) :
    ((load - less : Nat) : ℚ) / burst = max 0 (load / burst - less / burst) := by
  rcases Nat.le_total load less with under | above
  · have bound : (load : ℚ) / burst ≤ less / burst := by
      gcongr
    rw [Nat.sub_eq_zero_of_le under, max_eq_left (by linarith)]
    simp
  · have bound : (less : ℚ) / burst ≤ load / burst := by
      gcongr
    rw [max_eq_right (by linarith), Nat.cast_sub above, sub_div]

theorem toFluid_elapsed {now : Timestamp} (times : b.NormalTime) (normal : now.Normal) :
    b.toFluid.elapsed now = b.elapsed now := by
  unfold Fluid.elapsed elapsed
  simp only [toFluid]
  cases timed : b.lastDecision with
  | none => rfl
  | some last =>
    dsimp only
    by_cases past : now ≤ last
    · rw [if_pos past]
      exact Timestamp.nanosSince_eq_zero_of_le normal (times last timed) past
    · rw [if_neg past]
      rfl

theorem toFluid_clock {now : Timestamp} (times : b.NormalTime) (normal : now.Normal) :
    b.toFluid.clock now = b.clock now := by
  unfold Fluid.clock clock
  simp only [toFluid]
  cases timed : b.lastDecision with
  | none => rfl
  | some last => simp only [Timestamp.le_iff_toNanos_le normal (times last timed)]

/-- The leaked load in whole units: the level, lowered in proportion to the elapsed time. -/
theorem loadAt_div_eq (w : b.WellFormed) (now : Timestamp) :
    (b.loadAt now : ℚ) / b.burstNanos =
      max 0 (b.level - b.capacity * b.elapsed now / b.burstNanos) := by
  have positive : (0 : ℚ) < b.burstNanos := Nat.cast_pos.mpr w.burst_pos
  rw [loadAt, div_tsub positive, level_eq_load_div w, Nat.cast_mul, mul_comm (b.elapsed now : ℚ)]

theorem toFluid_leaked (w : b.WellFormed) {now : Timestamp} (times : b.NormalTime)
    (normal : now.Normal) : b.toFluid.leaked now = b.loadAt now / b.burstNanos := by
  rw [Fluid.leaked, toFluid_elapsed times normal, loadAt_div_eq w]
  rfl

/-- A level in whole units rounds up to what is bounded by the same whole numbers. -/
private theorem ceil_load_div (w : b.WellFormed) {load used : Nat}
    (bounds : ∀ n, used ≤ n ↔ load ≤ n * b.burstNanos) :
    ⌈(load : ℚ) / b.burstNanos⌉₊ = used := by
  have positive : (0 : ℚ) < b.burstNanos := Nat.cast_pos.mpr w.burst_pos
  refine eq_of_forall_ge_iff fun n => ?_
  rw [Nat.ceil_le, div_le_iff₀ positive, bounds n]
  norm_cast

theorem ceil_leaked (w : b.WellFormed) {now : Timestamp} (times : b.NormalTime)
    (normal : now.Normal) : ⌈b.toFluid.leaked now⌉₊ = (b.levelAt now).used := by
  rw [toFluid_leaked w times normal]
  exact ceil_load_div w (levelAt_used_le_iff w now)

theorem ceil_level (w : b.WellFormed) : ⌈b.level⌉₊ = b.used := by
  rw [level_eq_load_div w]
  exact ceil_load_div w (used_le_iff w)

theorem level_nonneg (w : b.WellFormed) : 0 ≤ b.level := by
  rw [level_eq_load_div w]
  positivity

/-- What fits the fluid bucket is what is free in whole units. -/
theorem leaked_add_le_iff (w : b.WellFormed) {now : Timestamp} (times : b.NormalTime)
    (normal : now.Normal) (units : Nat) :
    b.toFluid.leaked now + units ≤ b.capacity ↔ units ≤ b.free now := by
  have nonneg : 0 ≤ b.toFluid.leaked now := le_max_left _ _
  rw [← Nat.ceil_le, Nat.ceil_add_natCast nonneg, ceil_leaked w times normal, le_free_iff w]

theorem toFluid_claim (w : b.WellFormed) {now : Timestamp} (times : b.NormalTime)
    (normal : now.Normal) {units : Nat} (fits : units ≤ b.free now) :
    (b.claim now units).toFluid =
      { b.toFluid with
        level := b.toFluid.leaked now + units
        lastDecision := some (b.toFluid.clock now)
        provisional := min b.provisional ⌈b.toFluid.leaked now⌉₊ + units } := by
  have nonzero := burst_ne_zero w
  have level : (b.claim now units).level = b.toFluid.leaked now + units := by
    rw [level_eq_load_div (claim_wellFormed w fits), load_claim w, toFluid_leaked w times normal]
    simp only [claim, Nat.cast_add, Nat.cast_mul]
    rw [add_div, mul_div_cancel_right₀ _ nonzero]
  rw [ceil_leaked w times normal, toFluid_clock times normal, ← (levelSpec w now).time, ← level]
  rfl

/-- A draw is answered as by the fluid bucket, and leads to the same level. -/
theorem toFluid_draw? (w : b.WellFormed) {now : Timestamp} (times : b.NormalTime)
    (normal : now.Normal) (units : Nat) :
    b.toFluid.draw? now units = (b.draw? now units).map toFluid := by
  have room : 0 < b.toFluid.capacity ∧ b.toFluid.leaked now + units ≤ b.toFluid.capacity ↔
      b.capacity ≠ 0 ∧ units ≤ b.free now :=
    and_congr Nat.pos_iff_ne_zero (leaked_add_le_iff w times normal units)
  rw [Fluid.draw?, draw?_eq w]
  by_cases granted : b.capacity ≠ 0 ∧ units ≤ b.free now
  · rw [if_pos (room.mpr granted), if_pos granted, Option.map_some,
      toFluid_claim w times normal granted.2]
    rfl
  · rw [if_neg (fun h => granted (room.mp h)), if_neg granted, Option.map_none]

theorem level_release (w : b.WellFormed) (units : Nat) :
    (b.release units).level = max 0 (b.level - units) := by
  have positive : (0 : ℚ) < b.burstNanos := Nat.cast_pos.mpr w.burst_pos
  have released : ({ b.release units with provisional := 0 } : Bucket).level =
      (b.release units).load / b.burstNanos :=
    level_eq_load_div (release_wellFormed w (Nat.zero_le _))
  change ({ b.release units with provisional := 0 } : Bucket).level = _
  rw [released, load_release w, div_tsub positive, level_eq_load_div w, Nat.cast_mul,
    mul_div_cancel_right₀ _ (ne_of_gt positive)]

theorem ceil_lower (w : b.WellFormed) (units : Nat) :
    ⌈(b.toFluid.lower units).level⌉₊ = b.used - units := by
  have released : (b.toFluid.lower units).level = (b.refund units).level :=
    (level_release w units).symm
  rw [released]
  exact ceil_level (refund_wellFormed w units)

/-- Releasing units lowers the fluid level by as much. -/
theorem toFluid_release (w : b.WellFormed) (units provisional : Nat) :
    ({ b.release units with provisional } : Bucket).toFluid =
      { b.toFluid.lower units with provisional } := by
  rw [toFluid, Fluid.lower, Fluid.mk.injEq]
  exact ⟨rfl, rfl, level_release w units, rfl, rfl⟩

/-- Every operation acts on the bucket as it does on the fluid one. -/
theorem toFluid_apply (w : b.WellFormed) (times : b.NormalTime) {op : Op} (normal : op.Normal) :
    (b.apply op).toFluid = b.toFluid.apply op := by
  cases op with
  | draw now units =>
    rw [apply, Fluid.apply, toFluid_draw? w times normal]
    cases b.draw? now units <;> rfl
  | rollback => exact toFluid_release w b.provisional 0
  | commit => rfl
  | refund units =>
    rw [Fluid.apply, ceil_lower w]
    exact toFluid_release w units _
  | revoke units =>
    have used : ⌈b.toFluid.level⌉₊ = b.used := ceil_level w
    rw [Fluid.apply, used]
    exact toFluid_release w units _
  | restore used lastDecision =>
    simp [apply, restore, Fluid.apply, toFluid, level]

theorem grants_toFluid (w : b.WellFormed) (times : b.NormalTime) {op : Op} (normal : op.Normal) :
    b.toFluid.grants op = b.grants op := by
  cases op with
  | draw now units =>
    rw [grants, Fluid.grants, toFluid_draw? w times normal, Option.isSome_map]
  | rollback | commit | refund units | revoke units | restore used lastDecision => rfl

private theorem run_simulates_from (w : b.WellFormed) (times : b.NormalTime) {ops : List Op}
    (normal : ∀ op ∈ ops, op.Normal) :
    (b.run ops).toFluid = b.toFluid.run ops ∧ b.verdicts ops = b.toFluid.verdicts ops ∧
      (b.run ops).WellFormed := by
  induction ops generalizing b with
  | nil => exact ⟨rfl, rfl, w⟩
  | cons op ops ih =>
    have here : op.Normal := normal op (by simp)
    have step := toFluid_apply w times here
    obtain ⟨state, verdicts, wellFormed⟩ := ih (apply_wellFormed w op)
      (apply_normalTime w times here) (fun later member => normal later (by simp [member]))
    rw [step] at state verdicts
    refine ⟨state, ?_, wellFormed⟩
    rw [Bucket.verdicts, Fluid.verdicts, grants_toFluid w times here, verdicts]

/-- From the empty bucket, every run of operations at normal times, in any order, agrees with exact
rational arithmetic: the verdicts are those of the fluid bucket, the state stands for the fluid
state, and the units in use are the level rounded up. -/
theorem run_simulates_fluid {capacity burstNanos : Nat} (hc : capacity ≤ Word.max64)
    (hb : burstNanos ≤ Word.max64) (ops : List Op) (normal : ∀ op ∈ ops, op.Normal) :
    (new capacity burstNanos).verdicts ops = (Fluid.new capacity burstNanos).verdicts ops ∧
      ((new capacity burstNanos).run ops).toFluid = (Fluid.new capacity burstNanos).run ops ∧
      (((new capacity burstNanos).run ops).used : ℤ) =
        ⌈((new capacity burstNanos).run ops).level⌉ := by
  have start : (new capacity burstNanos).toFluid = Fluid.new capacity burstNanos := by
    simp [toFluid, new, Fluid.new, level]
  obtain ⟨state, verdicts, wellFormed⟩ := run_simulates_from (new_wellFormed hc hb)
    (fun t member => by cases member) normal
  rw [start] at state verdicts
  refine ⟨verdicts, state, ?_⟩
  rw [← ceil_level wellFormed]
  exact Int.natCast_ceil_eq_ceil (level_nonneg wellFormed)

/-- Fractions of a unit leak between the draws, time goes backwards once, and one draw misses the
capacity by a fraction. -/
theorem run_simulates_fluid_at_the_edge :
    let ops : List Op := [.draw ⟨0, 0⟩ 3, .commit, .draw ⟨0, 4⟩ 1, .draw ⟨0, 3⟩ 1, .revoke 1,
      .draw ⟨0, 5⟩ 1, .rollback, .refund 1, .restore 7 (some ⟨1, 0⟩), .draw ⟨1, 7⟩ 2]
    (new 3 10).verdicts ops = (Fluid.new 3 10).verdicts ops ∧
      ((new 3 10).run ops).toFluid = (Fluid.new 3 10).run ops ∧
      (((new 3 10).run ops).used : ℤ) = ⌈((new 3 10).run ops).level⌉ :=
  run_simulates_fluid (by decide) (by decide) _ (by decide)

/-- The third draw of that run asks for one unit at a level of `2.8` out of three. -/
example : (new 3 10).verdicts
    [.draw ⟨0, 0⟩ 3, .commit, .draw ⟨0, 4⟩ 1, .draw ⟨0, 3⟩ 1] = [true, true, true, false] := by
  decide

end Bucket

end Throttling
