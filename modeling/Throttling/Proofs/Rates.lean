import Throttling.Proofs.Window
import Mathlib.Algebra.BigOperators.Ring.List
import Mathlib.Data.Nat.Cast.Field
import Mathlib.Data.Nat.Cast.Order.Field
import Mathlib.Tactic.FieldSimp

/-!
# Group rates

A bucket that compiles holds its groups to their rates, jointly: in any window, the draws granted on
the compiled set take up the burst period and the length of the window at most, each draw counted as
the time in which its group earns it (`granted_within_rates`). Each rate divides the logical rate,
so the cost of a draw is exactly that time at the logical rate, and the throttle runs at no more
than the logical rate split a number of ways.
-/

set_option autoImplicit false

namespace Throttling

/-! ## The time that draws take up -/

namespace BucketDefinition

def burstSeconds (b : BucketDefinition) : ℚ := b.burstMillis / 1000

/-- The seconds in which the group of a functionality earns a quantity of it; none if the bucket
does not list the functionality. -/
def seconds (b : BucketDefinition) (g : ThrottleSet.Grant) : ℚ :=
  match b.groupOf? g.function with
  | none => 0
  | some group => milliOpsPerOp * g.quantity / group.rate

theorem seconds_nonneg (b : BucketDefinition) (g : ThrottleSet.Grant) : 0 ≤ b.seconds g := by
  unfold seconds
  split
  · exact le_refl 0
  · exact div_nonneg (mul_nonneg (Nat.cast_nonneg _) (Nat.cast_nonneg _)) (Nat.cast_nonneg _)

theorem seconds_filter_le (b : BucketDefinition) (keep : ThrottleSet.Grant → Bool)
    (gs : List ThrottleSet.Grant) :
    ((gs.filter keep).map b.seconds).sum ≤ (gs.map b.seconds).sum :=
  (List.filter_sublist.map b.seconds).sum_le_sum
    (List.forall_mem_map.mpr fun g _ => b.seconds_nonneg g)

/-- A group earns its quantities at its rate. -/
theorem quantities_eq {b : BucketDefinition} {split : Nat} {c : CompiledBucket} {logicalRate : Nat}
    (compiles : b.Compiles split c logicalRate) {group : GroupDefinition}
    (member : group ∈ b.groups) (gs : List ThrottleSet.Grant) :
    ((gs.filter fun g => g.function ∈ group.operations).map fun g =>
        (milliOpsPerOp * g.quantity : ℚ)).sum =
      group.rate * ((gs.filter fun g => g.function ∈ group.operations).map b.seconds).sum := by
  have nonzero : (group.rate : ℚ) ≠ 0 :=
    Nat.cast_ne_zero.mpr (Nat.ne_of_gt (compiles.rate_pos member))
  rw [← List.sum_map_mul_left]
  refine congrArg List.sum (List.map_congr_left fun g kept => ?_)
  have own : g.function ∈ group.operations := of_decide_eq_true (List.mem_filter.mp kept).2
  simp only [seconds, compiles.groupOf?_eq_some member own]
  field_simp

end BucketDefinition

/-! ## Compiled throttles -/

namespace ThrottleSet

variable {definitions : Definitions} {split : Nat} {b : BucketDefinition} {c : CompiledBucket}

/-- A bucket that compiles has a position in the compiled set. -/
theorem exists_position (listed : b ∈ definitions.buckets) (compiled : b.compile split = .ok c) :
    ∃ position : Nat, (accepted definitions split)[position]? = some c :=
  List.getElem?_of_mem (mem_accepted_iff.mpr ⟨b, listed, compiled⟩)

variable {position : Nat} (here : (accepted definitions split)[position]? = some c)

include here

theorem getElem?_compile (generation : Nat) :
    (compile definitions split generation).throttles[position]? = some c.throttle := by
  rw [compile, List.getElem?_map, here]
  rfl

/-- A cost of a bucket is charged at its position. -/
theorem le_costOn (generation : Nat) {function : Functionality} {cost : Nat}
    (member : (function, cost) ∈ c.costs) :
    cost ≤ (compile definitions split generation).costOn function position := by
  have entry : (function, (⟨position, cost⟩ : Requirement)) ∈
      (compile definitions split generation).costs :=
    List.mem_flatMap.mpr ⟨(c, position), List.mk_mem_zipIdx_iff_getElem?.mpr here,
      List.mem_map_of_mem member⟩
  have required : (⟨position, cost⟩ : Requirement) ∈
      (compile definitions split generation).requirements function :=
    List.mem_filterMap.mpr ⟨_, entry, if_pos rfl⟩
  exact List.single_le_sum (fun _ _ => Nat.zero_le _) _
    (List.mem_map_of_mem (List.mem_filter.mpr ⟨required, decide_eq_true rfl⟩))

omit here

/-- The throttle of a bucket that compiles is metered while its limits are in range. -/
theorem metered_of_compiles {logicalRate : Nat} (compiles : b.Compiles split c logicalRate)
    (inRange : c.throttle.capacity < Word.max64)
    (burst : b.burstMillis * nanosPerMilli ≤ Word.max64) :
    Metered (logicalRate / max split 1 * b.burstMillis) (b.burstMillis * nanosPerMilli)
      c.throttle := by
  obtain ⟨bounded, throttle⟩ := Throttle.operations_eq_ok compiles.throttle
  have period : 1 ≤ b.burstMillis * nanosPerMilli :=
    Nat.mul_pos compiles.burst_pos (by decide)
  rw [throttle, Word.saturate64_of_le burst] at inRange ⊢
  refine ⟨Bucket.new_wellFormed bounded burst, ?_, rfl, Nat.max_eq_left period, rfl, inRange⟩
  intro t member
  cases member

/-- A draw is charged with the time in which its group earns it, at the logical rate. -/
theorem seconds_le_charge (here : (accepted definitions split)[position]? = some c)
    {logicalRate : Nat} (compiles : b.Compiles split c logicalRate) (generation : Nat) (g : Grant) :
    (logicalRate : ℚ) * b.seconds g * microsPerMilli ≤
      (compile definitions split generation).charge position g := by
  unfold BucketDefinition.seconds
  split
  · rw [mul_zero, zero_mul]
    exact Nat.cast_nonneg _
  · rename_i group found
    have member := List.mem_of_find?_eq_some found
    have cost := le_costOn here generation (compiles.mem_costs found)
    have nonzero : (group.rate : ℚ) ≠ 0 :=
      Nat.cast_ne_zero.mpr (Nat.ne_of_gt (compiles.rate_pos member))
    calc
      (logicalRate : ℚ) * (milliOpsPerOp * g.quantity / group.rate) * microsPerMilli
        = ((microsPerMilli * (BucketDefinition.groupCost logicalRate group * g.quantity) : ℕ) :
            ℚ) := by
          rw [BucketDefinition.groupCost]
          push_cast [Nat.cast_div (compiles.rate_dvd member) nonzero]
          ring
      _ ≤ (compile definitions split generation).charge position g :=
          Nat.cast_le.mpr (Nat.mul_le_mul_left _ (Nat.mul_le_mul_right _ cost))

/-! ## Windows -/

/-- The grants of a run in a window that starts at some second since the epoch and is some seconds
long. -/
def grantsIn (s : ThrottleSet) (start length : ℚ) (ops : List Op) : List Grant :=
  window (start * nanosPerSecond) ((start + length) * nanosPerSecond) (s.grants ops)

/-- What the grants in a window are charged, at the logical rate. -/
theorem seconds_sum_le_charge_sum (here : (accepted definitions split)[position]? = some c)
    {logicalRate : Nat} (compiles : b.Compiles split c logicalRate) (generation : Nat)
    (gs : List Grant) :
    (logicalRate : ℚ) * (gs.map b.seconds).sum * microsPerMilli ≤
      ((gs.map ((compile definitions split generation).charge position)).sum : ℕ) := by
  induction gs with
  | nil => simp
  | cons g gs ih =>
    have first := seconds_le_charge here compiles generation g
    simp only [List.map_cons, List.sum_cons, Nat.cast_add]
    linarith

/-- The limit on charges at the logical rate, as one on seconds: with `rate` over `ways` as the rate
of the throttle, a burst in milliseconds and a window in nanoseconds. -/
private theorem seconds_le_of_charged {seconds rate ways burst capacity charged nanos : ℚ}
    (rate_pos : 0 < rate) (ways_pos : 0 < ways) (burst_pos : 0 < burst) (nanos_nonneg : 0 ≤ nanos)
    (capacity_le : capacity ≤ rate / ways * burst) (counted : rate * seconds * 1000 ≤ charged)
    (bounded : charged * (burst * 1000000) ≤ capacity * (burst * 1000000) + capacity * nanos) :
    ways * seconds ≤ burst / 1000 + nanos / 1000000000 := by
  have scaled : rate * seconds * 1000 * (burst * 1000000) ≤
      rate / ways * burst * (burst * 1000000 + nanos) :=
    calc
      _ ≤ charged * (burst * 1000000) := mul_le_mul_of_nonneg_right counted (by positivity)
      _ ≤ capacity * (burst * 1000000 + nanos) := by linarith
      _ ≤ _ := mul_le_mul_of_nonneg_right capacity_le (by positivity)
  have common : rate * burst * (ways * seconds * 1000000000) ≤
      rate * burst * (burst * 1000000 + nanos) :=
    calc
      _ = ways * (rate * seconds * 1000 * (burst * 1000000)) := by ring
      _ ≤ ways * (rate / ways * burst * (burst * 1000000 + nanos)) :=
          mul_le_mul_of_nonneg_left scaled ways_pos.le
      _ = rate * burst * (burst * 1000000 + nanos) := by field_simp
  have whole := le_of_mul_le_mul_left common (mul_pos rate_pos burst_pos)
  linarith

/-- In any window the groups of a bucket that compiles take up at most the burst period and the
length of the window, however many ways the capacity is split. -/
theorem split_mul_seconds_le (listed : b ∈ definitions.buckets) (compiled : b.compile split = .ok c)
    (inRange : c.throttle.capacity < Word.max64)
    (burst : b.burstMillis * nanosPerMilli ≤ Word.max64) (generation : Nat) {ops : List Op}
    (chronological : Chronological ops) (start : ℚ) {length : ℚ} (nonneg : 0 ≤ length) :
    split * (((compile definitions split generation).grantsIn start length ops).map
      b.seconds).sum ≤ b.burstSeconds + length := by
  obtain ⟨logicalRate, compiles⟩ := BucketDefinition.compiles_of_compile compiled
  obtain ⟨position, here⟩ := exists_position listed compiled
  have ways_pos : 0 < max split 1 := Nat.lt_of_lt_of_le Nat.zero_lt_one (Nat.le_max_right _ _)
  have nanos : (0 : ℚ) ≤ length * nanosPerSecond := mul_nonneg nonneg (Nat.cast_nonneg _)
  have ordered : start * nanosPerSecond ≤ (start + length) * nanosPerSecond := by linarith
  have bounded := chargedIn_le (compile_wellFormed definitions split generation)
    (getElem?_compile here generation) (metered_of_compiles compiles inRange burst) chronological
    ordered
  have counted := seconds_sum_le_charge_sum here compiles generation
    ((compile definitions split generation).grantsIn start length ops)
  have capacity : ((logicalRate / max split 1 * b.burstMillis : ℕ) : ℚ) ≤
      logicalRate / (max split 1 : ℕ) * b.burstMillis := by
    rw [Nat.cast_mul]
    exact mul_le_mul_of_nonneg_right Nat.cast_div_le (Nat.cast_nonneg _)
  have period : ((b.burstMillis * nanosPerMilli : ℕ) : ℚ) = b.burstMillis * 1000000 := by
    rw [Nat.cast_mul]
    norm_num [nanosPerMilli]
  have span : (start + length) * nanosPerSecond - start * nanosPerSecond =
      length * nanosPerSecond := by ring
  rw [period, span] at bounded
  have within := seconds_le_of_charged (Nat.cast_pos.mpr compiles.logicalRate_pos)
    (Nat.cast_pos.mpr ways_pos) (Nat.cast_pos.mpr compiles.burst_pos) nanos capacity counted bounded
  have seconds : length * nanosPerSecond / 1000000000 = length := by
    norm_num [nanosPerSecond]
  rw [seconds] at within
  refine le_trans (mul_le_mul_of_nonneg_right ?_ ?_) within
  · exact Nat.cast_le.mpr (Nat.le_max_left _ _)
  · exact List.sum_nonneg (List.forall_mem_map.mpr fun g _ => b.seconds_nonneg g)

/-- The groups of a bucket that compiles stay within their rates, jointly and each of them alone: in
any window, the time in which the groups earn the quantities granted is within the burst period and
the window, however many ways the capacity is split. -/
theorem granted_within_rates (listed : b ∈ definitions.buckets) (compiled : b.compile split = .ok c)
    (inRange : c.throttle.capacity < Word.max64)
    (burst : b.burstMillis * nanosPerMilli ≤ Word.max64) (generation : Nat) {ops : List Op}
    (chronological : Chronological ops) (start : ℚ) {length : ℚ} (nonneg : 0 ≤ length) :
    split * (((compile definitions split generation).grantsIn start length ops).map
        b.seconds).sum ≤ b.burstSeconds + length ∧
      ∀ group ∈ b.groups,
        split * ((((compile definitions split generation).grantsIn start length ops).filter
            fun g => g.function ∈ group.operations).map fun g =>
              (milliOpsPerOp * g.quantity : ℚ)).sum ≤
          group.rate * (b.burstSeconds + length) := by
  have joint := split_mul_seconds_le listed compiled inRange burst generation chronological start
    nonneg
  refine ⟨joint, fun group member => ?_⟩
  obtain ⟨logicalRate, compiles⟩ := BucketDefinition.compiles_of_compile compiled
  rw [BucketDefinition.quantities_eq compiles member]
  have part := b.seconds_filter_le (fun g => g.function ∈ group.operations)
    ((compile definitions split generation).grantsIn start length ops)
  calc
    _ = (group.rate : ℚ) * (split * _) := mul_left_comm _ _ _
    _ ≤ (group.rate : ℚ) * (split * _) :=
        mul_le_mul_of_nonneg_left (mul_le_mul_of_nonneg_left part (Nat.cast_nonneg _))
          (Nat.cast_nonneg _)
    _ ≤ group.rate * (b.burstSeconds + length) :=
        mul_le_mul_of_nonneg_left joint (Nat.cast_nonneg _)

/-- Two groups share a bucket that is split two ways, and each is granted a draw in the window. -/
theorem granted_within_rates_two_groups :
    let b : BucketDefinition :=
      ⟨"mixed", 2, 0, [⟨10, 0, [.cryptoTransfer]⟩, ⟨4, 0, [.cryptoCreate]⟩]⟩
    let ops : List Op := [.draw .cryptoTransfer ⟨100, 0⟩ 3, .commit,
      .draw .cryptoCreate ⟨100, 500000000⟩ 1, .draw .cryptoTransfer ⟨101, 0⟩ 50]
    let gs := (compile ⟨[b]⟩ 2 0).grantsIn 100 1 ops
    (∃ c, b.compile 2 = .ok c ∧ c.throttle.capacity < Word.max64) ∧
      b.burstMillis * nanosPerMilli ≤ Word.max64 ∧
      Chronological ops ∧ gs.length = 2 ∧ 2 * (gs.map b.seconds).sum ≤ b.burstSeconds + 1 ∧
      ∀ group ∈ b.groups,
        2 * ((gs.filter fun g => g.function ∈ group.operations).map fun g =>
          (milliOpsPerOp * g.quantity : ℚ)).sum ≤ group.rate * (b.burstSeconds + 1) := by
  intro b ops gs
  have accepted : (b.compile 2).toOption.any (·.throttle.capacity < Word.max64) := by
    decide +kernel
  have limits : b.burstMillis * nanosPerMilli ≤ Word.max64 := by decide
  have chronological : Chronological ops := ⟨by decide, by decide⟩
  cases compiled : b.compile 2 with
  | error e =>
    rw [compiled] at accepted
    cases accepted
  | ok c =>
    rw [compiled] at accepted
    have inRange : c.throttle.capacity < Word.max64 := of_decide_eq_true accepted
    have listed : b ∈ (⟨[b]⟩ : Definitions).buckets := List.mem_cons_self
    have limited := granted_within_rates listed compiled inRange limits 0 chronological 100
      zero_le_one
    exact ⟨⟨c, rfl, inRange⟩, limits, chronological, by decide +kernel,
      by exact_mod_cast limited⟩

end ThrottleSet

end Throttling
