import Throttling.Proofs.Definitions

/-!
# What compiles

A bucket definition compiles exactly if it is well formed (`BucketDefinition.Compilable`), and then
its throttle runs at its part of the logical rate and a functionality costs what its group leaves of
that rate, without a remainder (`BucketDefinition.compile_exact`). The conditions are on exact
numbers: a step of the compilation leaves its range only if one of these numbers does.

A quotient by zero is zero here, and would go unseen. So the compilation is written out a second
time, down to Euclid's algorithm, with every division stopping at a zero divisor
(`BucketDefinition.guardedCompile`). It never stops.
-/

set_option autoImplicit false

namespace Throttling

namespace BucketDefinition

/-! ## Divisions that stop -/

/-- A quotient; `none` if the divisor is zero. -/
def quotient (n divisor : Nat) : Option Nat := if divisor = 0 then none else some (n / divisor)

def remainder (n divisor : Nat) : Option { r : Nat // r < divisor } :=
  if positive : 0 < divisor then some ⟨n % divisor, Nat.mod_lt n positive⟩ else none

/-- The greatest common divisor, by remainders until one is zero. -/
def euclid (a b : Nat) : Option Nat :=
  if b = 0 then some a
  else do
    let r ← remainder a b
    euclid b r
termination_by b
decreasing_by exact r.2

/-- A step of the compilation that may find the bucket malformed. Apart from that, `none` is a zero
divisor. -/
abbrev Guarded (α : Type) : Type := ExceptT Malformed Option α

def ranged : Option Nat → Except Malformed Nat
  | none => .error .rateOverflow
  | some n => .ok n

def guardedLcm (a b : Nat) : Guarded Nat := do
  let divisor ← euclid a b
  let reduced ← quotient a divisor
  ranged (Word.checked64 (reduced * b))

def guardedLogicalRate (rates : List Nat) : Guarded Nat := do
  let multiple ← rates.foldlM guardedLcm 1
  let weight ← rates.foldlM (fun sum rate => do
    let times ← quotient multiple rate
    ranged (Word.checked64 (sum + times))) 0
  ranged (Word.checked64 (multiple * weight))

def guardedRate (b : BucketDefinition) (split : Nat) : Guarded Nat := do
  if b.groups = [] then throw .noGroups
  if b.burstMillis = 0 then throw .noBurst
  let rates := b.groups.map (·.rate)
  match rates.find? fun rate => rate = 0 ∨ rate < split with
  | some rate => throw (.unsplittableRate rate split)
  | none => guardedLogicalRate rates

def guardedCosts (logicalRate capacity : Nat) (listed : List Functionality) :
    List GroupDefinition → Guarded (List (Functionality × Nat))
  | [] => return []
  | group :: rest => do
    let ops ← quotient logicalRate group.rate
    let cost ← ranged (Word.checked64 (ops * milliOpsPerOp))
    if capacity < Word.saturate64 (cost * milliOpsPerOp) then throw (.costAboveCapacity group.rate)
    let here ← groupCosts cost listed group.operations
    return here ++ (← guardedCosts logicalRate capacity (group.operations ++ listed) rest)

/-- Compiles the bucket; `none` if a step divides by zero. -/
def guardedCompile (b : BucketDefinition) (split : Nat) : ExceptT Error Option CompiledBucket := do
  let split := max split 1
  let logicalRate ← (b.guardedRate split).adapt (.malformedBucket b.name)
  let rate ← quotient logicalRate split
  let throttle ← Throttle.operations b.name rate b.burstMillis
  let costs ←
    (guardedCosts logicalRate throttle.capacity [] b.groups).adapt (.malformedBucket b.name)
  return { throttle, costs }

theorem quotient_of_pos {divisor : Nat} (positive : 0 < divisor) (n : Nat) :
    quotient n divisor = some (n / divisor) := if_neg (Nat.ne_of_gt positive)

theorem euclid_eq (a b : Nat) : euclid a b = some (Nat.gcd a b) := by
  induction b using Nat.strong_induction_on generalizing a with
  | h b ih =>
    rw [euclid]
    by_cases zero : b = 0
    · rw [if_pos zero, zero, Nat.gcd_zero_right]
    · have positive := Nat.pos_of_ne_zero zero
      rw [if_neg zero, remainder, dif_pos positive, Option.bind_eq_bind, Option.bind_some,
        ih (a % b) (Nat.mod_lt a positive), Nat.gcd_comm, ← Nat.gcd_rec, Nat.gcd_comm]

private theorem some_bind {ε α β : Type} (x : α) (next : α → ExceptT ε Option β) :
    (liftM (some x) >>= next : ExceptT ε Option β) = next x := rfl

/-- A step that does not stop, and then one that does not where the first succeeds. -/
private theorem mk_bind {ε α β : Type} {step : Except ε α} {next : α → ExceptT ε Option β}
    {plain : α → Except ε β} (same : ∀ x, step = .ok x → next x = .mk (some (plain x))) :
    (.mk (some step) >>= next : ExceptT ε Option β) = .mk (some (step >>= plain)) := by
  cases step with
  | error e => rfl
  | ok x => exact same x rfl

private theorem ranged_bind (n : Option Nat) (next : Nat → Option Nat) :
    ranged (n >>= next) = ranged n >>= fun x => ranged (next x) := by
  cases n <;> rfl

private theorem guardedLcm_eq {a : Nat} (positive : 0 < a) (b : Nat) :
    guardedLcm a b = .mk (some (ranged (checkedLcm a b))) := by
  rw [guardedLcm, euclid_eq, some_bind, quotient_of_pos (Nat.gcd_pos_of_pos_left b positive)]
  rfl

/-- A fold of steps that do not stop while `safe` holds of what they are given. -/
private theorem foldlM_eq (safe : Nat → Prop) {guarded : Nat → Nat → Guarded Nat}
    {plain : Nat → Nat → Option Nat} {xs : List Nat}
    (same : ∀ x ∈ xs, ∀ n, safe n →
      guarded n x = .mk (some (ranged (plain n x))) ∧ ∀ m, plain n x = some m → safe m)
    {start : Nat} (first : safe start) :
    xs.foldlM guarded start = .mk (some (ranged (xs.foldlM plain start))) := by
  induction xs generalizing start with
  | nil => rfl
  | cons x xs ih =>
    obtain ⟨here, rest⟩ := List.forall_mem_cons.mp same
    obtain ⟨step, keeps⟩ := here start first
    rw [List.foldlM_cons, List.foldlM_cons, step]
    cases next : plain start x with
    | none => rfl
    | some m => exact ih rest (keeps m next)

/-- Positive rates have a positive least common multiple, whatever prefix of them it is taken of, so
Euclid's algorithm never ends at zero. -/
private theorem guardedLogicalRate_eq {rates : List Nat} (positive : ∀ r ∈ rates, 0 < r) :
    guardedLogicalRate rates = .mk (some (ranged (logicalRate? rates))) := by
  have common : rates.foldlM guardedLcm 1 = .mk (some (ranged (rates.foldlM checkedLcm 1))) := by
    refine foldlM_eq (0 < ·) (fun r member n safe => ⟨guardedLcm_eq safe r, fun m lcm => ?_⟩)
      Nat.zero_lt_one
    rw [checkedLcm_eq] at lcm
    rw [← (Word.checked64_eq_some_iff.mp lcm).2]
    exact Nat.lcm_pos safe (positive r member)
  have quotients : ∀ multiple, (rates.foldlM (fun sum rate => do
      let times ← quotient multiple rate
      ranged (Word.checked64 (sum + times))) 0 : Guarded Nat) =
        .mk (some (ranged (rates.foldlM
          (fun sum rate => Word.checked64 (sum + multiple / rate)) 0))) := by
    intro multiple
    refine foldlM_eq (fun _ => True) (fun r member n _ => ⟨?_, fun _ _ => trivial⟩) trivial
    rw [quotient_of_pos (positive r member)]
    rfl
  rw [guardedLogicalRate, common, logicalRate?, ranged_bind]
  refine mk_bind fun multiple _ => ?_
  rw [quotients, ranged_bind]
  exact mk_bind fun weight _ => rfl

private theorem guardedRate_eq (b : BucketDefinition) (split : Nat) :
    b.guardedRate split = .mk (some (b.checkedLogicalRate split)) := by
  unfold guardedRate checkedLogicalRate
  by_cases empty : b.groups = []
  · rw [if_pos empty, if_pos empty]
    rfl
  by_cases still : b.burstMillis = 0
  · rw [if_neg empty, if_pos still, if_neg empty, if_pos still]
    rfl
  rw [if_neg empty, if_neg still, if_neg empty, if_neg still]
  dsimp only
  cases found : (b.groups.map (·.rate)).find? fun rate => rate = 0 ∨ rate < split with
  | some rate => rfl
  | none =>
    have positive : ∀ r ∈ b.groups.map (·.rate), 0 < r := by
      intro r member
      have fine := List.find?_eq_none.mp found r member
      simp only [decide_eq_true_eq, not_or] at fine
      exact Nat.pos_of_ne_zero fine.1
    dsimp only
    rw [guardedLogicalRate_eq positive]
    cases logicalRate? (b.groups.map (·.rate)) <;> rfl

private theorem guardedCosts_eq {logicalRate capacity : Nat} {listed : List Functionality}
    {groups : List GroupDefinition} (positive : ∀ g ∈ groups, 0 < g.rate) :
    guardedCosts logicalRate capacity listed groups =
      .mk (some (costs logicalRate capacity listed groups)) := by
  induction groups generalizing listed with
  | nil => rfl
  | cons g gs ih =>
    obtain ⟨first, rest⟩ := List.forall_mem_cons.mp positive
    rw [guardedCosts, costs, quotient_of_pos first, some_bind]
    dsimp only
    cases Word.checked64 (logicalRate / g.rate * milliOpsPerOp) with
    | none => rfl
    | some cost =>
      change (if capacity < Word.saturate64 (cost * milliOpsPerOp) then _ else _ :
        Guarded (List (Functionality × Nat))) = _
      by_cases room : capacity < Word.saturate64 (cost * milliOpsPerOp)
      · simp only [if_pos room]
        rfl
      · simp only [if_neg room]
        refine mk_bind fun here _ => ?_
        rw [ih rest]
        exact mk_bind fun later _ => rfl

/-- No compilation divides by zero: the guard on the rates comes before every division by one. -/
theorem guardedCompile_eq (b : BucketDefinition) (split : Nat) :
    b.guardedCompile split = .mk (some (b.compile split)) := by
  have splits : 0 < max split 1 := Nat.lt_of_lt_of_le Nat.zero_lt_one (Nat.le_max_right split 1)
  rw [guardedCompile, compile, guardedRate_eq]
  cases found : b.checkedLogicalRate (max split 1) with
  | error e => rfl
  | ok logicalRate =>
    obtain ⟨-, -, splittable, -⟩ := checkedLogicalRate_eq_ok.mp found
    change (liftM (quotient logicalRate (max split 1)) >>= _ :
      ExceptT Error Option CompiledBucket) = .mk (some (Throttle.operations _ _ _ >>= _))
    rw [quotient_of_pos splits, some_bind]
    refine mk_bind fun throttle _ => ?_
    rw [guardedCosts_eq fun g member => (splittable g member).1]
    exact mk_bind fun costs _ => rfl

/-! ## Well-formed buckets -/

/-- When a bucket is well formed for a network that is split a number of ways: its groups share a
throttle at its part of the logical rate, and each operation fits that throttle. -/
structure Compilable (b : BucketDefinition) (split : Nat) : Prop where
  nonempty : b.groups ≠ []
  burst : 0 < b.burstMillis
  splittable : ∀ g ∈ b.groups, 0 < g.rate ∧ max split 1 ≤ g.rate
  logicalRate : b.logicalRate < 2 ^ 64
  capacity : b.logicalRate / max split 1 * b.burstMillis < 2 ^ 64
  cost : ∀ g ∈ b.groups, 1000 * b.logicalRate / g.rate < 2 ^ 64
  fits : ∀ g ∈ b.groups, min (10 ^ 6 * b.logicalRate / g.rate) (2 ^ 64 - 1) ≤
    b.logicalRate / max split 1 * b.burstMillis
  distinct : (listed b.groups).Nodup

/-- What a well-formed bucket compiles to: a throttle at its part of the logical rate, and for each
functionality, in order of definition, the milli-operations at the logical rate that one operation
of its group stands for. -/
def compiled (b : BucketDefinition) (split : Nat) : CompiledBucket where
  throttle :=
    { name := b.name
      kind := .operations
      rate := b.logicalRate / max split 1
      burstNanos := Word.saturate64 (b.burstMillis * nanosPerMilli)
      unitsPerAmount := microsPerMilli
      bucket := .new (b.logicalRate / max split 1 * b.burstMillis)
        (Word.saturate64 (b.burstMillis * nanosPerMilli)) }
  costs := b.groups.flatMap fun g => g.operations.map fun f => (f, 1000 * b.logicalRate / g.rate)

theorem groupCost_eq {b : BucketDefinition} {g : GroupDefinition} (member : g ∈ b.groups) :
    groupCost b.logicalRate g = 1000 * b.logicalRate / g.rate := by
  rw [Nat.mul_div_assoc 1000 (rate_dvd_logicalRate member), Nat.mul_comm]
  rfl

theorem groupCost_mul {b : BucketDefinition} {g : GroupDefinition} (member : g ∈ b.groups) :
    groupCost b.logicalRate g * milliOpsPerOp = 10 ^ 6 * b.logicalRate / g.rate := by
  rw [Nat.mul_div_assoc (10 ^ 6) (rate_dvd_logicalRate member), groupCost, milliOpsPerOp]
  omega

theorem costs_compiled {b : BucketDefinition} (split : Nat) :
    (b.groups.flatMap fun g => g.operations.map (·, groupCost b.logicalRate g)) =
      (b.compiled split).costs := by
  refine List.flatMap_congr fun g member => ?_
  rw [groupCost_eq member]

/-- A bucket compiles exactly if it is well formed. -/
theorem compile_eq_ok_iff {b : BucketDefinition} {split : Nat} {bucket : CompiledBucket} :
    b.compile split = .ok bucket ↔ b.Compilable split ∧ bucket = b.compiled split := by
  rw [compile_eq_ok]
  constructor
  · rintro ⟨logicalRate, compiles⟩
    obtain ⟨nonempty, burst, splittable, inRange, rfl⟩ := checkedLogicalRate_eq_ok.mp compiles.rate
    obtain ⟨capacity, throttle⟩ := Throttle.operations_eq_ok compiles.throttle
    obtain ⟨costs, distinct, cost_le, fits⟩ := compiles.accepted
    refine ⟨⟨nonempty, burst, splittable, Nat.lt_succ_of_le inRange, Nat.lt_succ_of_le capacity,
      fun g member => ?_, fun g member => ?_, distinct⟩, ?_⟩
    · rw [← groupCost_eq member]
      exact Nat.lt_succ_of_le (cost_le g member)
    · have room := fits g member
      rw [groupCost_mul member, throttle] at room
      exact room
    · obtain ⟨t, out⟩ := bucket
      rw [CompiledBucket.mk.injEq]
      exact ⟨throttle, costs.trans (costs_compiled split)⟩
  · rintro ⟨formed, rfl⟩
    refine ⟨b.logicalRate, checkedLogicalRate_eq_ok.mpr ⟨formed.nonempty, formed.burst,
      formed.splittable, Nat.le_of_lt_succ formed.logicalRate, rfl⟩,
      Throttle.operations_of_le (Nat.le_of_lt_succ formed.capacity),
      costs_eq_ok_iff.mpr ⟨(costs_compiled split).symm, formed.distinct, fun g member => ?_,
        fun g member => ?_⟩⟩
    · rw [groupCost_eq member]
      exact Nat.le_of_lt_succ (formed.cost g member)
    · rw [groupCost_mul member]
      exact formed.fits g member

/-- A bucket compiles exactly if it is well formed, to the throttle and the costs of the exact
logical rate. The rates divide their least common multiple and the logical rate, so no quotient is
rounded, and none has a zero divisor, whatever the bucket. -/
theorem compile_exact (b : BucketDefinition) (split : Nat) :
    (∀ bucket, b.compile split = .ok bucket ↔ b.Compilable split ∧ bucket = b.compiled split) ∧
      (∀ g ∈ b.groups, g.rate ∣ commonMultiple (b.groups.map (·.rate)) ∧ g.rate ∣ b.logicalRate) ∧
      b.guardedCompile split = .mk (some (b.compile split)) :=
  ⟨fun _ => compile_eq_ok_iff,
    fun _ member => ⟨dvd_commonMultiple (List.mem_map_of_mem member), rate_dvd_logicalRate member⟩,
    guardedCompile_eq b split⟩

/-- Rates of 10000, 2500 and 4000 milli-operations share 300000, of which a network split in three
has 100000. -/
theorem compile_exact_three_groups :
    (BucketDefinition.mk "shared" 0 1500 [⟨10, 0, [.cryptoTransfer]⟩, ⟨0, 2500, [.contractCall]⟩,
        ⟨4, 0, [.cryptoCreate, .tokenMint]⟩]).compile 3 =
      .ok ⟨⟨"shared", .operations, 100000, 1500000000, 1000, .new 150000000 1500000000⟩,
        [(.cryptoTransfer, 30000), (.contractCall, 120000), (.cryptoCreate, 75000),
          (.tokenMint, 75000)]⟩ :=
  ((compile_exact _ 3).1 _).mpr
    ⟨⟨by decide, by decide, by decide, by decide +kernel, by decide +kernel, by decide +kernel,
      by decide +kernel, by decide +kernel⟩, by decide +kernel⟩

end BucketDefinition

end Throttling
