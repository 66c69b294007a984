import Throttling.Throttle

/-!
# Throttle definitions

A definitions document lists named buckets. A bucket has a burst period and
groups, and a group grants a rate to a set of functionalities. All groups of a
bucket share one throttle. It runs at a logical rate `L = m · Σ (m / gᵢ)`, where
`gᵢ` is the rate of group `i` and `m` the least common multiple of the rates,
and an operation of group `i` costs `L / gᵢ` logical operations. So each group
alone is held to its own rate while together they compete for the bucket.
`BucketDefinition.compile` computes the throttle and the costs, or says why the
bucket is malformed.
-/

set_option autoImplicit false

namespace Throttling

def milliOpsPerOp : Nat := 1000

structure GroupDefinition where
  /-- Whole operations per second, in force when `milliOpsPerSec` is zero. -/
  opsPerSec : Nat
  milliOpsPerSec : Nat
  operations : List Functionality
  deriving DecidableEq, Repr, Inhabited

structure BucketDefinition where
  name : String
  /-- Burst period in seconds, in force when `burstPeriodMs` is zero. -/
  burstPeriod : Nat
  burstPeriodMs : Nat
  groups : List GroupDefinition
  deriving DecidableEq, Repr, Inhabited

/-- A definitions document: its buckets, in order of priority. -/
structure Definitions where
  buckets : List BucketDefinition
  deriving DecidableEq, Repr, Inhabited

/-- The rate in milli-operations per second. -/
def GroupDefinition.rate (g : GroupDefinition) : Nat :=
  if 0 < g.milliOpsPerSec then g.milliOpsPerSec
  else Word.saturate64 (g.opsPerSec * milliOpsPerOp)

/-- The least common multiple of two rates; `none` when it is out of range. -/
def checkedLcm (a b : Nat) : Option Nat := Word.checked64 (a / Nat.gcd a b * b)

/-- The logical rate of a bucket whose groups have these rates, none of them zero. Every step must
stay in range. -/
def logicalRate? (rates : List Nat) : Option Nat := do
  let multiple ← rates.foldlM checkedLcm 1
  let weight ← rates.foldlM (fun sum rate => Word.checked64 (sum + multiple / rate)) 0
  Word.checked64 (multiple * weight)

/-- A bucket compiled: the shared throttle, and the milli-operations that each functionality draws
per unit, in order of definition. -/
structure CompiledBucket where
  throttle : Throttle
  costs : List (Functionality × Nat)
  deriving DecidableEq, Repr

namespace BucketDefinition

def burstMillis (b : BucketDefinition) : Nat :=
  if 0 < b.burstPeriodMs then b.burstPeriodMs else Word.saturate64 (b.burstPeriod * 1000)

/-- The functionalities of a group at one cost, none of which may have been listed before. -/
def groupCosts (cost : Nat) (listed : List Functionality) :
    List Functionality → Except Malformed (List (Functionality × Nat))
  | [] => .ok []
  | function :: rest => do
    if function ∈ listed then throw (.repeated function)
    return (function, cost) :: (← groupCosts cost (function :: listed) rest)

/-- The costs of groups at a logical rate. A single operation must fit the capacity. -/
def costs (logicalRate capacity : Nat) (listed : List Functionality) :
    List GroupDefinition → Except Malformed (List (Functionality × Nat))
  | [] => .ok []
  | group :: rest => do
    let rate := group.rate
    match Word.checked64 (logicalRate / rate * milliOpsPerOp) with
    | none => throw .rateOverflow
    | some cost =>
      if capacity < Word.saturate64 (cost * milliOpsPerOp) then throw (.costAboveCapacity rate)
      let here ← groupCosts cost listed group.operations
      return here ++ (← costs logicalRate capacity (group.operations ++ listed) rest)

/-- The logical rate of the bucket, if its groups and its burst period allow one. -/
def checkedLogicalRate (b : BucketDefinition) (split : Nat) : Except Malformed Nat := do
  if b.groups = [] then throw .noGroups
  if b.burstMillis = 0 then throw .noBurst
  let rates := b.groups.map (·.rate)
  match rates.find? fun rate => rate = 0 ∨ rate < split with
  | some rate => throw (.unsplittableRate rate split)
  | none =>
    match logicalRate? rates with
    | none => throw .rateOverflow
    | some rate => return rate

/-- Compiles the bucket for a network whose capacity is split a number of ways. A split of zero
ways counts as one. -/
def compile (b : BucketDefinition) (split : Nat) : Except Error CompiledBucket := do
  let split := max split 1
  let logicalRate ← (b.checkedLogicalRate split).mapError (.malformedBucket b.name)
  let throttle ← Throttle.operations b.name (logicalRate / split) b.burstMillis
  let costs ← (costs logicalRate throttle.capacity [] b.groups).mapError (.malformedBucket b.name)
  return { throttle, costs }

end BucketDefinition

end Throttling
