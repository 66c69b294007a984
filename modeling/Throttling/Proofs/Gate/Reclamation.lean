import Throttling.Proofs.Bucket.Alike
import Throttling.Proofs.Gate.Reversal

/-!
# Immediate reclamation

Usages that are reclaimed right after the decision that recorded them give every throttle back what
was drawn, to the fraction. The leak up to the instant of the decision stays: a usage carries an
amount and no time. It shows only where the decision has started the clock, or has set it back
(`reclaim_decideTransaction`), that is for units that were restored without a decision time or with
one that runs ahead of the decision.

Sets are numbered in turn, by rebuilds and by nothing else (`run_generation`). So the usages of a
decision are stale after any number of rebuilds up to the one that comes round to its set again, and
reclaiming them then leaves the throttles of operations alone.
-/

set_option autoImplicit false

namespace Throttling

variable {g h : Gate} {now : Timestamp} {usages : List Usage} {ref : ThrottleRef}

/-! ## What is reclaimed -/

namespace Usage

variable {t : Throttle}

/-- The throttle with all that usages name it for refunded. -/
def refundOn (usages : List Usage) (ref : ThrottleRef) (t : Throttle) : Throttle :=
  (usages.filter fun u => u.throttle = ref).foldl (fun t u => t.refund u.amount) t

theorem refundOn_cons_of_named {u : Usage} (named : u.throttle = ref) :
    refundOn (u :: usages) ref = refundOn usages ref ∘ (·.refund u.amount) := by
  funext t
  simp [refundOn, named]

theorem refundOn_cons_of_unnamed {u : Usage} (other : u.throttle ≠ ref) :
    refundOn (u :: usages) ref = refundOn usages ref := by
  funext t
  simp [refundOn, other]

/-- Refunding what was claimed leaves the leak up to the instant, as far as it shows. -/
theorem free_refundOn_claimOn (w : t.bucket.WellFormed)
    (distinct : (usages.map (·.throttle)).Nodup) (time : Timestamp) :
    (refundOn usages ref (claimOn usages ref now t)).free time =
      if names usages ref then (t.claim now 0).free time else t.free time := by
  cases named : names usages ref with
  | false =>
    rw [claimOn_of_unnamed named, refundOn, filter_of_unnamed named]
    rfl
  | true =>
    obtain ⟨u, member, rfl⟩ := names_eq_true_iff.mp named
    rw [claimOn, named, if_pos rfl, unitsOn_of_distinct distinct member, refundOn,
      filter_key_of_nodup distinct member]
    have refunded := Bucket.refund_claim w now (t.units u.amount)
    have free := congrArg (Bucket.free · time) refunded
    exact free

end Usage

/-- Usages of the set at hand are reclaimed from the throttles that they name. -/
theorem throttle?_reclaim (stamped : ∀ u ∈ usages, u.generation = g.operations.generation)
    (ref : ThrottleRef) :
    (g.reclaim usages).throttle? ref = (g.throttle? ref).map (Usage.refundOn usages ref) := by
  induction usages generalizing g with
  | nil => exact Option.map_id'.symm
  | cons u us ih =>
    obtain ⟨own, rest⟩ := List.forall_mem_cons.mp stamped
    have same := (reclaimUsage_sameTariffs (g := g) u).generation
    have later := ih (g := g.reclaimUsage u) fun v member => (rest v member).trans same.symm
    change ((g.reclaimUsage u).reclaim us).throttle? ref = _
    rw [later, throttle?_reclaimUsage]
    by_cases named : u.throttle = ref
    · rw [if_pos ⟨named, fun _ => own⟩, Option.map_map, Usage.refundOn_cons_of_named named]
    · rw [if_neg fun counted => named counted.1, Usage.refundOn_cons_of_unnamed named]

namespace Gate.Drew

variable {kinds : List ResourceKind}

/-- Reclaiming what a decision drew leaves a throttle as free as it was before, at most leaked up to
the instant. -/
theorem free_reclaim (drew : g.commit.Drew kinds now usages h) (w : g.WellFormed)
    (ref : ThrottleRef) (time : Timestamp) :
    ((h.reclaim usages).throttle? ref).map (·.free time) =
      (g.throttle? ref).map fun t =>
        if Usage.names usages ref then (t.claim now 0).free time else t.free time := by
  have stamped : ∀ u ∈ usages, u.generation = h.operations.generation := fun u member =>
    (drew.stamped u member).trans drew.generation.symm
  rw [throttle?_reclaim stamped, drew.state, Option.map_map, Option.map_map]
  refine Eq.trans ?_ (map_throttle?_commit (fun _ => rfl) g ref)
  exact Option.map_congr fun t here =>
    Usage.free_refundOn_claimOn ((commit_wellFormed w).throttle? here) drew.distinct time

/-- Reclaiming what a decision drew leaves all throttles as free as they were from then on, exactly
if those drawn from were steady. -/
theorem free_reclaim_iff (drew : g.commit.Drew kinds now usages h) (w : g.WellFormed)
    (normal : now.Normal) :
    (∀ ref time, now ≤ time → ((h.reclaim usages).throttle? ref).map (·.free time) =
        (g.throttle? ref).map (·.free time)) ↔
      ∀ u ∈ usages, ∀ t ∈ g.throttle? u.throttle, t.bucket.Steady now := by
  constructor
  · intro same u member t here
    refine (Bucket.free_claim_zero_iff (w.throttle? here) normal).mp fun time later => ?_
    have named := Usage.names_eq_true_iff.mpr ⟨u, member, rfl⟩
    have own := same u.throttle time later
    rw [drew.free_reclaim w, here, Option.map_some, Option.map_some, named] at own
    exact Option.some.inj own
  · intro steady ref time later
    rw [drew.free_reclaim w]
    refine Option.map_congr fun t here => ?_
    split
    · rename_i named
      obtain ⟨u, member, rfl⟩ := Usage.names_eq_true_iff.mp named
      exact (steady u member t here).free_claim_zero (w.throttle? here) normal later
    · rfl

end Gate.Drew

/-! ## Generations -/

/-- The number of the set is in range, and the next set gets the number after it. -/
structure Gate.Numbered (g : Gate) : Prop where
  generation_le : g.operations.generation ≤ Word.max64
  next : g.nextGeneration = Gate.generationAfter g.operations.generation

theorem call_numbered (w : g.WellFormed) (numbered : g.Numbered) (c : Call) :
    (g.call c).gate.Numbered := by
  cases rebuilds : c.rebuilds with
  | true =>
    obtain ⟨definitions, rfl⟩ := Call.rebuilds_iff.mp rebuilds
    refine ⟨?_, rfl⟩
    change g.nextGeneration ≤ Word.max64
    rw [numbered.next]
    exact Nat.le_of_lt_succ (Nat.mod_lt _ (by decide))
  | false =>
    have same := call_sameTariffs w rebuilds
    refine ⟨?_, ?_⟩
    · rw [same.generation]
      exact numbered.generation_le
    · rw [same.generation, same.nextGeneration]
      exact numbered.next

/-- A rebuild steps to the next number, and no other call changes it. -/
theorem call_generation (w : g.WellFormed) (numbered : g.Numbered) (c : Call) :
    (g.call c).gate.operations.generation =
      Word.low64 (g.operations.generation + if c.rebuilds then 1 else 0) := by
  cases rebuilds : c.rebuilds with
  | true =>
    obtain ⟨definitions, rfl⟩ := Call.rebuilds_iff.mp rebuilds
    exact numbered.next
  | false =>
    rw [(call_sameTariffs w rebuilds).generation]
    exact (Word.low64_of_le numbered.generation_le).symm

theorem Gate.Reached.numbered {allowed : Call → Prop} (reached : g.Reached allowed) :
    g.Numbered :=
  Gate.Reached.induction (P := Gate.Numbered) (fun _ => ⟨Nat.zero_le _, rfl⟩)
    (fun _ reached numbered c _ => call_numbered reached.wellFormed numbered c) reached

theorem low64_low64_add (m n : Nat) : Word.low64 (Word.low64 m + n) = Word.low64 (m + n) :=
  Nat.mod_add_mod m _ n

/-- The number of the set counts the rebuilds of a run, and wraps around. -/
theorem run_generation (reached : g.Reached fun _ => True) (calls : List Call) :
    (g.run calls).operations.generation =
      Word.low64 (g.operations.generation + calls.countP Call.rebuilds) := by
  induction calls generalizing g with
  | nil => exact (Word.low64_of_le reached.numbered.generation_le).symm
  | cons c cs ih =>
    have first := call_generation reached.wellFormed reached.numbered c
    have rest := ih (reached.call (c := c) trivial)
    change ((g.call c).gate.run cs).operations.generation = _
    rw [rest, first, low64_low64_add, List.countP_cons, Nat.add_assoc, Nat.add_comm (ite _ _ _)]

/-- Usages of other sets leave the throttles of operations alone. -/
theorem reclaim_of_stale (stale : ∀ u ∈ usages, u.generation ≠ g.operations.generation) :
    (g.reclaim usages).operations = g.operations := by
  induction usages generalizing g with
  | nil => rfl
  | cons u us ih =>
    obtain ⟨own, rest⟩ := List.forall_mem_cons.mp stale
    have first : (g.reclaimUsage u).operations = g.operations := by
      unfold Gate.reclaimUsage
      split
      · rw [if_neg own]
      · rfl
      · rfl
      · rfl
    have later := ih (g := g.reclaimUsage u) (by rwa [first])
    exact later.trans first

/-- After rebuilds, unless they come round to the same number, what was recorded before is stale. -/
theorem reclaim_of_rebuilt (reached : g.Reached fun _ => True)
    (stamped : ∀ u ∈ usages, u.generation = g.operations.generation) {calls : List Call}
    (rebuilt : 0 < calls.countP Call.rebuilds) (few : calls.countP Call.rebuilds ≤ Word.max64) :
    ((g.run calls).reclaim usages).operations = (g.run calls).operations := by
  refine reclaim_of_stale fun u member => ?_
  have range := reached.numbered.generation_le
  rw [stamped u member, run_generation reached calls]
  unfold Word.max64 at range few
  unfold Word.low64
  omega

/-! ## Decisions -/

/-- Reclaiming what an admitted decision recorded leaves all throttles as free as they were before
it, now and later, exactly if those drawn from were steady. If the throttles of operations are
rebuilt in between, a number of times that generations can tell apart, reclaiming leaves them
alone, whatever else is called. -/
theorem reclaim_decideTransaction {allowed : Call → Prop} (reached : g.Reached allowed)
    (active : g.stage ≠ .passthrough) (normal : now.Normal) {config : Config} {ledger : LedgerView}
    {txn : Transaction} {decided : Outcome Decision}
    (decision : g.decideTransaction config ledger txn now = decided)
    (admitted : decided.result.verdict = .allowed) :
    ((∀ ref time, now ≤ time →
        ((decided.gate.reclaim decided.result.usages).throttle? ref).map (·.free time) =
          (g.throttle? ref).map (·.free time)) ↔
      ∀ u ∈ decided.result.usages, ∀ t ∈ g.throttle? u.throttle, t.bucket.Steady now) ∧
    ∀ calls : List Call, 0 < calls.countP Call.rebuilds →
      calls.countP Call.rebuilds ≤ Word.max64 →
        ((decided.gate.run calls).reclaim decided.result.usages).operations =
          (decided.gate.run calls).operations := by
  subst decision
  have drew := decideTransaction_drew reached.wellFormed reached.ordered active admitted
  refine ⟨drew.free_reclaim_iff reached.wellFormed normal, fun calls rebuilt few => ?_⟩
  have after : (g.decideTransaction config ledger txn now).gate.Reached fun _ => True :=
    (reached.imp fun _ _ => trivial).call (c := .transaction config ledger txn now) trivial
  refine reclaim_of_rebuilt after (fun u member => ?_) rebuilt few
  exact (drew.stamped u member).trans drew.generation.symm

/-- Half a second after a call that has drawn all of the gas, a call for three units is admitted and
reclaimed. After a rebuild and a call in between, what it drew from operations is not reclaimed. -/
theorem reclaim_decideTransaction_timed :
    let bucket : BucketDefinition := ⟨"calls", 1, 0, [⟨10, 0, [.contractCall]⟩]⟩
    let config : Config := { contracts := { maxGasPerSecAtConsensus := 10 } }
    let call (gas : Nat) := Transaction.ofBody (.ofNumber 5000) ⟨none, .contractCall gas⟩ 200
    let made (gas : Nat) (now : Timestamp) : Call :=
      .transaction config Ledger.empty.view (call gas) now
    let g := (Gate.new .consensus).run
      [.rebuild ⟨[bucket]⟩, .applyGas config, made 10 ⟨100, 0⟩]
    let now : Timestamp := ⟨100, 500000000⟩
    let decided := g.decideTransaction config Ledger.empty.view (call 3) now
    let calls : List Call := [.rebuild ⟨[bucket]⟩, made 1 ⟨101, 0⟩]
    let later := decided.gate.run calls
    g.Reached (fun _ => True) ∧
      decided.result = ⟨.allowed, [⟨.gas, 3, 1⟩, ⟨.operations 0, 1000, 1⟩]⟩ ∧
      (∀ ref time, now ≤ time →
        ((decided.gate.reclaim decided.result.usages).throttle? ref).map (·.free time) =
          (g.throttle? ref).map (·.free time)) ∧
      (later.reclaim decided.result.usages).operations = later.operations := by
  intro bucket config call made g now decided calls later
  have reached : g.Reached fun _ => True := ⟨.consensus, _, fun _ _ => trivial, rfl⟩
  have active : g.stage ≠ .passthrough := by decide +kernel
  have result : decided.result = ⟨.allowed, [⟨.gas, 3, 1⟩, ⟨.operations 0, 1000, 1⟩]⟩ := by
    decide +kernel
  have steady : ∀ u ∈ decided.result.usages,
      ∀ t ∈ g.throttle? u.throttle, t.bucket.Steady now := by decide +kernel
  obtain ⟨inverse, stale⟩ := reclaim_decideTransaction reached active (by decide)
    (show g.decideTransaction config Ledger.empty.view (call 3) now = decided from rfl)
    (congrArg Decision.verdict result)
  exact ⟨reached, result, inverse.mpr steady, stale calls (by decide) (by decide)⟩

/-- Gas restored without a decision time does not leak before a decision, and leaks after it also if
the decision is reclaimed: of ten units nine are in use, and a second after the decision none. -/
theorem reclaimed_decision_can_start_the_clock :
    ¬ ∀ {g : Gate} {now : Timestamp}, g.Reached (fun _ => True) → g.stage ≠ .passthrough →
      now.Normal → ∀ (config : Config) (ledger : LedgerView) (txn : Transaction),
        (g.decideTransaction config ledger txn now).result.verdict = .allowed →
          ∀ ref ≠ .opsDuration, ∀ time, now ≤ time →
            (((g.decideTransaction config ledger txn now).gate.reclaim
              (g.decideTransaction config ledger txn now).result.usages).throttle? ref).map
                (·.free time) = (g.throttle? ref).map (·.free time) := by
  intro inverse
  let bucket : BucketDefinition := ⟨"calls", 1, 0, [⟨10, 0, [.contractCall]⟩]⟩
  let config : Config := { contracts := { maxGasPerSecAtConsensus := 10 } }
  let txn := Transaction.ofBody (.ofNumber 5000) ⟨none, .contractCall 1⟩ 200
  have reached : Gate.Reached (fun _ => True) ((Gate.new .consensus).run
      [.rebuild ⟨[bucket]⟩, .applyGas config, .restore ⟨[], some ⟨9, none⟩, none⟩]) :=
    ⟨.consensus, _, fun _ _ => trivial, rfl⟩
  have same := @inverse _ ⟨100, 0⟩ reached (by decide +kernel) (by decide) config
    Ledger.empty.view txn (by decide +kernel) .gas (by decide) ⟨101, 0⟩ (by decide)
  exact absurd same (by decide +kernel)

end Throttling
