import Throttling.Definitions
import Throttling.Proofs.Bucket.Load
import Throttling.Proofs.Steps
import Mathlib.Algebra.Order.BigOperators.Group.List
import Mathlib.Data.Nat.GCD.Basic

/-!
# Compiled buckets

What it takes for a bucket definition to compile: each step of the compilation succeeds, and the
throttle and the costs are what the steps give. The logical rate is the product of the least common
multiple of the rates and the sum of its quotients, and it is found exactly if this product is in
range (`logicalRate?_eq`). Each rate divides it. A new throttle has an empty, well-formed bucket.
-/

set_option autoImplicit false

namespace Throttling

/-! ## New throttles -/

theorem Throttle.operations_eq_ok {name : String} {rate burstMillis : Nat} {t : Throttle}
    (h : Throttle.operations name rate burstMillis = .ok t) :
    rate * burstMillis ≤ Word.max64 ∧
      t = { name, kind := .operations, rate
            burstNanos := Word.saturate64 (burstMillis * nanosPerMilli)
            unitsPerAmount := microsPerMilli
            bucket :=
              .new (rate * burstMillis) (Word.saturate64 (burstMillis * nanosPerMilli)) } := by
  unfold Throttle.operations at h
  split at h
  · cases h
  · rename_i capacity checked
    obtain ⟨inRange, rfl⟩ := Word.checked64_eq_some_iff.mp checked
    cases h
    exact ⟨inRange, rfl⟩

theorem Throttle.operations_of_le {name : String} {rate burstMillis : Nat}
    (inRange : rate * burstMillis ≤ Word.max64) :
    Throttle.operations name rate burstMillis =
      .ok { name, kind := .operations, rate
            burstNanos := Word.saturate64 (burstMillis * nanosPerMilli)
            unitsPerAmount := microsPerMilli
            bucket :=
              .new (rate * burstMillis) (Word.saturate64 (burstMillis * nanosPerMilli)) } := by
  rw [Throttle.operations, Word.checked64, if_pos inRange]

theorem Throttle.perSecond_wellFormed (kind : ResourceKind) (rate burstSeconds : Nat) :
    (Throttle.perSecond kind rate burstSeconds).bucket.WellFormed :=
  Bucket.new_wellFormed (Word.saturate64_le _) (Word.saturate64_le _)

/-! ## Logical rates -/

theorem checkedLcm_eq (a b : Nat) : checkedLcm a b = Word.checked64 (Nat.lcm a b) := by
  rw [checkedLcm, Nat.lcm_eq_mul_div, Nat.div_mul_right_comm (Nat.gcd_dvd_left a b)]

private theorem le_foldl {step : Nat → Nat → Nat} {xs : List Nat}
    (grows : ∀ x ∈ xs, ∀ b, b ≤ step b x) (start : Nat) : start ≤ xs.foldl step start := by
  induction xs generalizing start with
  | nil => exact Nat.le_refl start
  | cons x xs ih =>
    obtain ⟨first, rest⟩ := List.forall_mem_cons.mp grows
    exact Nat.le_trans (first start) (ih rest (step start x))

/-- A check passes if a later check of a larger quantity does. -/
private theorem checked64_bind {n m : Nat} {next : Nat → Option Nat} (le : n ≤ m)
    (last : n ≤ Word.max64 → next n = Word.checked64 m) :
    (Word.checked64 n >>= next) = Word.checked64 m := by
  by_cases fits : n ≤ Word.max64
  · rw [Word.checked64, if_pos fits]
    exact last fits
  · have beyond : ¬ m ≤ Word.max64 := fun within => fits (Nat.le_trans le within)
    rw [Word.checked64, if_neg fits, Word.checked64, if_neg beyond]
    rfl

/-- A fold whose steps never go down leaves the range on the way only if it ends out of range. -/
private theorem foldlM_checked64 {step : Nat → Nat → Nat} {xs : List Nat}
    (grows : ∀ x ∈ xs, ∀ b, b ≤ step b x) {start : Nat} (inRange : start ≤ Word.max64) :
    xs.foldlM (fun b x => Word.checked64 (step b x)) start =
      Word.checked64 (xs.foldl step start) := by
  induction xs generalizing start with
  | nil => exact (if_pos inRange).symm
  | cons x xs ih =>
    obtain ⟨-, rest⟩ := List.forall_mem_cons.mp grows
    rw [List.foldlM_cons, List.foldl_cons]
    exact checked64_bind (le_foldl rest _) fun fits => ih rest fits

def commonMultiple (rates : List Nat) : Nat := rates.foldl Nat.lcm 1

private theorem foldl_lcm_dvd_iff {rates : List Nat} {a n : Nat} :
    rates.foldl Nat.lcm a ∣ n ↔ a ∣ n ∧ ∀ r ∈ rates, r ∣ n := by
  induction rates generalizing a with
  | nil => simp
  | cons r rs ih => simp [ih, Nat.lcm_dvd_iff, and_assoc]

theorem commonMultiple_dvd_iff {rates : List Nat} {n : Nat} :
    commonMultiple rates ∣ n ↔ ∀ r ∈ rates, r ∣ n :=
  foldl_lcm_dvd_iff.trans (and_iff_right (Nat.one_dvd n))

theorem dvd_commonMultiple {rates : List Nat} {rate : Nat} (member : rate ∈ rates) :
    rate ∣ commonMultiple rates :=
  commonMultiple_dvd_iff.mp (Nat.dvd_refl _) rate member

private theorem foldl_lcm_pos {rates : List Nat} {a : Nat} (start : 0 < a)
    (positive : ∀ r ∈ rates, 0 < r) : 0 < rates.foldl Nat.lcm a := by
  induction rates generalizing a with
  | nil => exact start
  | cons r rs ih =>
    obtain ⟨first, rest⟩ := List.forall_mem_cons.mp positive
    exact ih (Nat.lcm_pos start first) rest

theorem commonMultiple_pos {rates : List Nat} (positive : ∀ r ∈ rates, 0 < r) :
    0 < commonMultiple rates := foldl_lcm_pos Nat.zero_lt_one positive

/-- How often the rates go into their least common multiple, taken together. -/
def jointWeight (rates : List Nat) : Nat := (rates.map fun rate => commonMultiple rates / rate).sum

/-- The rate at which groups with these rates share one throttle. -/
def jointRate (rates : List Nat) : Nat := commonMultiple rates * jointWeight rates

theorem jointWeight_pos {rates : List Nat} (nonempty : rates ≠ [])
    (positive : ∀ r ∈ rates, 0 < r) : 0 < jointWeight rates := by
  obtain ⟨rate, member⟩ := List.exists_mem_of_ne_nil rates nonempty
  have quotient : 0 < commonMultiple rates / rate :=
    Nat.div_pos (Nat.le_of_dvd (commonMultiple_pos positive) (dvd_commonMultiple member))
      (positive rate member)
  exact Nat.lt_of_lt_of_le quotient (List.single_le_sum (fun _ _ => Nat.zero_le _) _
    (List.mem_map_of_mem member))

theorem dvd_jointRate {rates : List Nat} {rate : Nat} (member : rate ∈ rates) :
    rate ∣ jointRate rates :=
  Nat.dvd_mul_right_of_dvd (dvd_commonMultiple member) _

theorem jointRate_pos {rates : List Nat} (nonempty : rates ≠ []) (positive : ∀ r ∈ rates, 0 < r) :
    0 < jointRate rates :=
  Nat.mul_pos (commonMultiple_pos positive) (jointWeight_pos nonempty positive)

/-- The logical rate is found exactly if it is in range. Both factors are at most their product, so
no step before the last one is out of range alone. -/
theorem logicalRate?_eq {rates : List Nat} (nonempty : rates ≠ [])
    (positive : ∀ r ∈ rates, 0 < r) : logicalRate? rates = Word.checked64 (jointRate rates) := by
  have common : rates.foldlM checkedLcm 1 = Word.checked64 (commonMultiple rates) := by
    simp only [funext₂ checkedLcm_eq]
    exact foldlM_checked64 (fun r member b => Nat.le_lcm_left b (positive r member)) (by decide)
  have quotients : rates.foldlM
      (fun sum rate => Word.checked64 (sum + commonMultiple rates / rate)) 0 =
        Word.checked64 (jointWeight rates) := by
    rw [jointWeight, List.sum_eq_foldl_nat, List.foldl_map]
    exact foldlM_checked64 (fun _ _ b => Nat.le_add_right b _) (Nat.zero_le _)
  rw [logicalRate?, common]
  refine checked64_bind (Nat.le_mul_of_pos_right _ (jointWeight_pos nonempty positive)) fun _ => ?_
  rw [quotients]
  exact checked64_bind (Nat.le_mul_of_pos_left _ (commonMultiple_pos positive)) fun _ => rfl

/-! ## Compilation -/

namespace BucketDefinition

def logicalRate (b : BucketDefinition) : Nat := jointRate (b.groups.map (·.rate))

theorem rate_dvd_logicalRate {b : BucketDefinition} {group : GroupDefinition}
    (member : group ∈ b.groups) : group.rate ∣ b.logicalRate :=
  dvd_jointRate (List.mem_map_of_mem member)

theorem checkedLogicalRate_eq_ok {b : BucketDefinition} {split logicalRate : Nat} :
    b.checkedLogicalRate split = .ok logicalRate ↔
      b.groups ≠ [] ∧ 0 < b.burstMillis ∧ (∀ g ∈ b.groups, 0 < g.rate ∧ split ≤ g.rate) ∧
        b.logicalRate ≤ Word.max64 ∧ b.logicalRate = logicalRate := by
  simp only [checkedLogicalRate, guard_eq_ok_iff, Nat.pos_iff_ne_zero]
  refine and_congr_right fun nonempty => and_congr_right fun _ => ?_
  have splittable : ((b.groups.map (·.rate)).find? fun rate => rate = 0 ∨ rate < split) = none ↔
      ∀ g ∈ b.groups, g.rate ≠ 0 ∧ split ≤ g.rate := by
    simp
  cases found : (b.groups.map (·.rate)).find? fun rate => rate = 0 ∨ rate < split with
  | some rate =>
    constructor
    · intro h
      cases h
    · rintro ⟨splits, -⟩
      rw [splittable.mpr splits] at found
      cases found
  | none =>
    have splits := splittable.mp found
    rw [logicalRate?_eq (by simpa using nonempty)
      (List.forall_mem_map.mpr fun g member => Nat.pos_of_ne_zero (splits g member).1),
      and_iff_right splits, ← Word.checked64_eq_some_iff, BucketDefinition.logicalRate]
    cases Word.checked64 (jointRate (b.groups.map (·.rate))) with
    | none => exact ⟨nofun, nofun⟩
    | some rate => exact ⟨fun h => congrArg some (Except.ok.inj h),
        fun h => congrArg Except.ok (Option.some.inj h)⟩

/-- What the compilation of a bucket has established when it succeeds. -/
structure Compiles (b : BucketDefinition) (split : Nat) (bucket : CompiledBucket)
    (logicalRate : Nat) : Prop where
  rate : b.checkedLogicalRate (max split 1) = .ok logicalRate
  throttle : Throttle.operations b.name (logicalRate / max split 1) b.burstMillis =
    .ok bucket.throttle
  costs : costs logicalRate bucket.throttle.capacity [] b.groups = .ok bucket.costs

theorem compile_eq_ok {b : BucketDefinition} {split : Nat} {bucket : CompiledBucket} :
    b.compile split = .ok bucket ↔ ∃ logicalRate, b.Compiles split bucket logicalRate := by
  simp only [compile, bind_eq_ok_iff, mapError_eq_ok_iff]
  constructor
  · rintro ⟨logicalRate, rate, throttle, operations, costs, listed, same⟩
    cases same
    exact ⟨logicalRate, rate, operations, listed⟩
  · rintro ⟨logicalRate, compiles⟩
    exact ⟨logicalRate, compiles.rate, bucket.throttle, compiles.throttle, bucket.costs,
      compiles.costs, rfl⟩

theorem compiles_of_compile {b : BucketDefinition} {split : Nat} {bucket : CompiledBucket}
    (h : b.compile split = .ok bucket) : ∃ logicalRate, b.Compiles split bucket logicalRate :=
  compile_eq_ok.mp h

section Compiles

variable {b : BucketDefinition} {split : Nat} {bucket : CompiledBucket} {logicalRate : Nat}

theorem Compiles.burst_pos (compiles : b.Compiles split bucket logicalRate) :
    0 < b.burstMillis :=
  (checkedLogicalRate_eq_ok.mp compiles.rate).2.1

theorem Compiles.rate_pos (compiles : b.Compiles split bucket logicalRate)
    {group : GroupDefinition} (member : group ∈ b.groups) : 0 < group.rate :=
  ((checkedLogicalRate_eq_ok.mp compiles.rate).2.2.1 group member).1

theorem Compiles.logicalRate_eq (compiles : b.Compiles split bucket logicalRate) :
    b.logicalRate = logicalRate :=
  (checkedLogicalRate_eq_ok.mp compiles.rate).2.2.2.2

/-- The rate of each group divides the logical rate. -/
theorem Compiles.rate_dvd (compiles : b.Compiles split bucket logicalRate)
    {group : GroupDefinition} (member : group ∈ b.groups) : group.rate ∣ logicalRate := by
  rw [← compiles.logicalRate_eq]
  exact rate_dvd_logicalRate member

theorem Compiles.logicalRate_pos (compiles : b.Compiles split bucket logicalRate) :
    0 < logicalRate := by
  rw [← compiles.logicalRate_eq]
  exact jointRate_pos (by simpa using (checkedLogicalRate_eq_ok.mp compiles.rate).1)
    (List.forall_mem_map.mpr fun _ member => compiles.rate_pos member)

end Compiles

def groupCost (logicalRate : Nat) (group : GroupDefinition) : Nat :=
  logicalRate / group.rate * milliOpsPerOp

theorem Compiles.groupCost_pos {b : BucketDefinition} {split : Nat} {bucket : CompiledBucket}
    {logicalRate : Nat} (compiles : b.Compiles split bucket logicalRate) {group : GroupDefinition}
    (member : group ∈ b.groups) : 0 < groupCost logicalRate group := by
  have most := Nat.le_of_dvd compiles.logicalRate_pos (compiles.rate_dvd member)
  exact Nat.mul_pos (Nat.div_pos most (compiles.rate_pos member)) (by decide)

def listed (groups : List GroupDefinition) : List Functionality := groups.flatMap (·.operations)

private theorem groupCosts_eq_ok {cost : Nat} {seen functions : List Functionality}
    {costs : List (Functionality × Nat)} :
    groupCosts cost seen functions = .ok costs ↔
      costs = functions.map (·, cost) ∧ functions.Nodup ∧ ∀ f ∈ functions, f ∉ seen := by
  induction functions generalizing seen costs with
  | nil =>
    simp only [groupCosts, List.map_nil, List.nodup_nil, List.not_mem_nil, false_implies,
      implies_true, and_true, Except.ok.injEq, eq_comm]
  | cons f fs ih =>
    simp only [groupCosts, guard_eq_ok_iff, bind_eq_ok_iff, ih]
    constructor
    · rintro ⟨fresh, rest, ⟨rfl, distinct, unseen⟩, same⟩
      cases same
      refine ⟨rfl, List.nodup_cons.mpr ⟨fun member => ?_, distinct⟩,
        List.forall_mem_cons.mpr ⟨fresh, fun g later old => ?_⟩⟩
      · exact unseen f member List.mem_cons_self
      · exact unseen g later (List.mem_cons_of_mem f old)
    · rintro ⟨rfl, distinct, unseen⟩
      obtain ⟨apart, rest⟩ := List.nodup_cons.mp distinct
      obtain ⟨fresh, later⟩ := List.forall_mem_cons.mp unseen
      refine ⟨fresh, _, ⟨rfl, rest, fun g member old => ?_⟩, rfl⟩
      rcases List.mem_cons.mp old with rfl | earlier
      · exact apart member
      · exact later g member earlier

/-- What the costs of groups are when they are accepted: no functionality is listed twice, and a
single operation fits the capacity. -/
structure Costs (logicalRate capacity : Nat) (groups : List GroupDefinition)
    (costs : List (Functionality × Nat)) : Prop where
  costs_eq : costs = groups.flatMap fun g => g.operations.map (·, groupCost logicalRate g)
  distinct : (listed groups).Nodup
  cost_le : ∀ g ∈ groups, groupCost logicalRate g ≤ Word.max64
  fits : ∀ g ∈ groups, Word.saturate64 (groupCost logicalRate g * milliOpsPerOp) ≤ capacity

private theorem costs_eq_ok {logicalRate capacity : Nat} {seen : List Functionality}
    {groups : List GroupDefinition} {out : List (Functionality × Nat)} :
    costs logicalRate capacity seen groups = .ok out ↔
      Costs logicalRate capacity groups out ∧ ∀ f ∈ listed groups, f ∉ seen := by
  induction groups generalizing seen out with
  | nil =>
    constructor
    · intro h
      cases h
      refine ⟨⟨rfl, List.nodup_nil, ?_, ?_⟩, ?_⟩ <;> exact fun _ member => by cases member
    · rintro ⟨accepted, -⟩
      rw [accepted.costs_eq]
      rfl
  | cons g gs ih =>
    have cost : logicalRate / g.rate * milliOpsPerOp = groupCost logicalRate g := rfl
    simp only [costs, cost]
    by_cases inRange : groupCost logicalRate g ≤ Word.max64
    · rw [Word.checked64, if_pos inRange]
      simp only [guard_eq_ok_iff, bind_eq_ok_iff, groupCosts_eq_ok, ih]
      constructor
      · rintro ⟨room, here, ⟨rfl, distinct, unseen⟩, rest, ⟨accepted, fresh⟩, same⟩
        cases same
        refine ⟨⟨?_, ?_, ?_, ?_⟩, fun f member => ?_⟩
        · rw [accepted.costs_eq]
          rfl
        · refine List.nodup_append.mpr ⟨distinct, accepted.distinct, fun f here f' there same => ?_⟩
          subst same
          exact fresh f there (List.mem_append_left _ here)
        · exact List.forall_mem_cons.mpr ⟨inRange, accepted.cost_le⟩
        · exact List.forall_mem_cons.mpr ⟨Nat.le_of_not_lt room, accepted.fits⟩
        · rcases List.mem_append.mp member with here | there
          · exact unseen f here
          · exact fun old => fresh f there (List.mem_append_right _ old)
      · rintro ⟨accepted, unseen⟩
        obtain ⟨here, rest, apart⟩ := List.nodup_append.mp accepted.distinct
        obtain ⟨room, fits⟩ := List.forall_mem_cons.mp accepted.fits
        obtain ⟨-, cost_le⟩ := List.forall_mem_cons.mp accepted.cost_le
        refine ⟨Nat.not_lt.mpr room, _, ⟨rfl, here, fun f own => ?_⟩, _,
          ⟨⟨rfl, rest, cost_le, fits⟩, fun f later old => ?_⟩, ?_⟩
        · exact unseen f (List.mem_append_left _ own)
        · rcases List.mem_append.mp old with own | earlier
          · exact apart f own f later rfl
          · exact unseen f (List.mem_append_right _ later) earlier
        · rw [accepted.costs_eq]
          rfl
    · rw [Word.checked64, if_neg inRange]
      constructor
      · intro h
        cases h
      · rintro ⟨accepted, -⟩
        exact absurd (accepted.cost_le g List.mem_cons_self) inRange

theorem costs_eq_ok_iff {logicalRate capacity : Nat} {groups : List GroupDefinition}
    {out : List (Functionality × Nat)} :
    costs logicalRate capacity [] groups = .ok out ↔ Costs logicalRate capacity groups out :=
  costs_eq_ok.trans (and_iff_left fun _ _ => List.not_mem_nil)

theorem Compiles.accepted {b : BucketDefinition} {split : Nat} {bucket : CompiledBucket}
    {logicalRate : Nat} (compiles : b.Compiles split bucket logicalRate) :
    Costs logicalRate bucket.throttle.capacity b.groups bucket.costs :=
  costs_eq_ok_iff.mp compiles.costs

def groupOf? (b : BucketDefinition) (function : Functionality) : Option GroupDefinition :=
  b.groups.find? fun g => function ∈ g.operations

/-- A group is found by each functionality that it lists. -/
theorem Compiles.groupOf?_eq_some {b : BucketDefinition} {split : Nat} {bucket : CompiledBucket}
    {logicalRate : Nat} (compiles : b.Compiles split bucket logicalRate) {group : GroupDefinition}
    (member : group ∈ b.groups) {function : Functionality} (own : function ∈ group.operations) :
    b.groupOf? function = some group := by
  have distinct := compiles.accepted.distinct
  unfold groupOf?
  generalize b.groups = groups at *
  induction groups with
  | nil => cases member
  | cons g gs ih =>
    obtain ⟨-, rest, apart⟩ := List.nodup_append.mp distinct
    rcases List.mem_cons.mp member with rfl | later
    · exact List.find?_cons_of_pos (decide_eq_true own)
    · have other : function ∉ g.operations := fun here =>
        apart function here function (List.mem_flatMap.mpr ⟨group, later, own⟩) rfl
      rw [List.find?_cons, decide_eq_false other]
      exact ih later rest

theorem Compiles.mem_costs {b : BucketDefinition} {split : Nat} {bucket : CompiledBucket}
    {logicalRate : Nat} (compiles : b.Compiles split bucket logicalRate)
    {function : Functionality} {group : GroupDefinition}
    (found : b.groupOf? function = some group) :
    (function, groupCost logicalRate group) ∈ bucket.costs := by
  have own : function ∈ group.operations := by
    have holds := List.find?_some found
    exact of_decide_eq_true holds
  rw [compiles.accepted.costs_eq]
  exact List.mem_flatMap.mpr
    ⟨group, List.mem_of_find?_eq_some found, List.mem_map_of_mem own⟩

/-- No cost of a bucket is zero. -/
theorem cost_pos_of_compile {b : BucketDefinition} {split : Nat} {bucket : CompiledBucket}
    (h : b.compile split = .ok bucket) : ∀ cost ∈ bucket.costs, 0 < cost.2 := by
  obtain ⟨logicalRate, compiles⟩ := compiles_of_compile h
  intro cost member
  rw [compiles.accepted.costs_eq] at member
  obtain ⟨group, own, listed⟩ := List.mem_flatMap.mp member
  obtain ⟨_, -, rfl⟩ := List.mem_map.mp listed
  exact compiles.groupCost_pos own

/-- No functionality has two costs in a bucket. -/
theorem nodup_of_compile {b : BucketDefinition} {split : Nat} {bucket : CompiledBucket}
    (h : b.compile split = .ok bucket) : (bucket.costs.map (·.1)).Nodup := by
  obtain ⟨logicalRate, compiles⟩ := compiles_of_compile h
  have functions : bucket.costs.map (·.1) = listed b.groups := by
    rw [compiles.accepted.costs_eq, List.map_flatMap]
    simp only [List.map_map, Function.comp_def, List.map_id', listed]
  rw [functions]
  exact compiles.accepted.distinct

theorem wellFormed_of_compile {b : BucketDefinition} {split : Nat} {bucket : CompiledBucket}
    (h : b.compile split = .ok bucket) : bucket.throttle.bucket.WellFormed := by
  obtain ⟨logicalRate, compiled⟩ := compiles_of_compile h
  obtain ⟨inRange, throttle⟩ := Throttle.operations_eq_ok compiled.throttle
  rw [throttle]
  exact Bucket.new_wellFormed inRange (Word.saturate64_le _)

end BucketDefinition

end Throttling
