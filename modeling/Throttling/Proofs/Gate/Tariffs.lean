import Throttling.Proofs.Gate.Denial
import Throttling.Proofs.ThrottleSet

/-!
# The tariffs of a gate

Only a rebuild changes what functionalities cost and which generation the set has; every other call
leaves both as they are (`call_sameTariffs`). So the tariffs of a gate are always those of a
compiled set, or there are none, and no tariff names a throttle twice (`Gate.Reached.ordered`).
-/

set_option autoImplicit false

namespace Throttling

/-- The gates have the same tariffs, and number their sets alike. -/
structure Gate.SameTariffs (g h : Gate) : Prop where
  costs : h.operations.costs = g.operations.costs
  generation : h.operations.generation = g.operations.generation
  nextGeneration : h.nextGeneration = g.nextGeneration

variable {g h : Gate} {now : Timestamp}

theorem Gate.SameTariffs.refl (g : Gate) : g.SameTariffs g := ⟨rfl, rfl, rfl⟩

theorem Gate.Related.sameTariffs {R : ResourceKind → Throttle → Throttle → Prop}
    (related : g.Related R h) : g.SameTariffs h :=
  ⟨related.operations.costs.symm, related.operations.generation.symm, related.nextGeneration.symm⟩

private theorem decideTransaction_sameTariffs (w : g.WellFormed) (config : Config)
    (ledger : LedgerView) (txn : Transaction) :
    g.SameTariffs (g.decideTransaction config ledger txn now).gate := by
  have committed : Gate.WellFormed { g.commit with deniedByGas := false } :=
    { commit_wellFormed w with }
  have charged := (charge_drawn committed config ledger txn now).sameTariffs
  unfold Gate.decideTransaction
  split
  · exact .refl g
  · dsimp only
    split
    · exact { charged with }
    · exact { charged with }

private theorem decideOperations_sameTariffs (w : g.WellFormed) (function : Functionality)
    (quantity : Nat) : g.SameTariffs (g.decideOperations function now quantity).gate := by
  unfold Gate.decideOperations
  dsimp only
  split
  · exact ⟨rfl, rfl, rfl⟩
  · rename_i draw drawn
    have charged := (set_draw?_drawn (commit_wellFormed w) drawn).sameTariffs
    split
    · exact { charged with }
    · exact { charged with }

private theorem decideQuery_sameTariffs (w : g.WellFormed) (config : Config) (ledger : LedgerView)
    (query : Query) (payer : Option AccountId) :
    g.SameTariffs (g.decideQuery config ledger query payer now).gate := by
  unfold Gate.decideQuery
  split
  · exact .refl g
  · split
    · exact .refl g
    · split
      · split
        · unfold Gate.decideGasQuery
          split
          · exact .refl g
          · split <;> exact ⟨rfl, rfl, rfl⟩
        · exact .refl g
      · exact decideOperations_sameTariffs w _ _

private theorem decideOpsDuration_sameTariffs (config : Config) (duration : Nat) :
    g.SameTariffs (g.decideOpsDuration config duration now).gate := by
  unfold Gate.decideOpsDuration
  dsimp only
  split
  · exact .refl g
  · split
    · exact .refl g
    · split
      · split <;> exact ⟨rfl, rfl, rfl⟩
      · exact ⟨rfl, rfl, rfl⟩

private theorem decideBatch_sameTariffs (w : g.WellFormed) (count : Nat) (function : Functionality)
    (now : Timestamp) : g.SameTariffs (g.decideBatch count function now).gate := by
  unfold Gate.decideBatch
  split
  · exact .refl g
  · exact decideOperations_sameTariffs w function count

/-- A batch leaves the requirements as they are. -/
theorem decideBatch_costs (w : g.WellFormed) (count : Nat) (function : Functionality)
    (now : Timestamp) :
    (g.decideBatch count function now).gate.operations.costs = g.operations.costs :=
  (decideBatch_sameTariffs w count function now).costs

private theorem refundBatch_sameTariffs (count : Nat) (function : Functionality) :
    g.SameTariffs (g.call (.refundBatch count function)).gate := by
  simp only [Gate.call, Gate.refundBatch, ThrottleSet.refund]
  split
  · rename_i refunded
    split at refunded
    · cases refunded
      exact .refl g
    · cases found : g.operations.tariff? function with
      | none =>
        rw [found] at refunded
        cases refunded
      | some tariff =>
        rw [found] at refunded
        cases refunded
        exact ⟨rfl, rfl, rfl⟩
  · exact .refl g

theorem reclaimUsage_sameTariffs (usage : Usage) : g.SameTariffs (g.reclaimUsage usage) := by
  unfold Gate.reclaimUsage
  split
  · split <;> exact ⟨rfl, rfl, rfl⟩
  · exact ⟨rfl, rfl, rfl⟩
  · exact ⟨rfl, rfl, rfl⟩
  · exact ⟨rfl, rfl, rfl⟩

private theorem reclaim_sameTariffs (usages : List Usage) : g.SameTariffs (g.reclaim usages) := by
  unfold Gate.reclaim
  induction usages generalizing g with
  | nil => exact .refl g
  | cons u us ih =>
    have first : g.SameTariffs (g.reclaimUsage u) := reclaimUsage_sameTariffs u
    have rest : (g.reclaimUsage u).SameTariffs (us.foldl Gate.reclaimUsage (g.reclaimUsage u)) := ih
    exact ⟨rest.costs.trans first.costs, rest.generation.trans first.generation,
      rest.nextGeneration.trans first.nextGeneration⟩

/-- A call that is not a rebuild leaves the tariffs and the numbers of the sets as they are. -/
theorem call_sameTariffs (w : g.WellFormed) {c : Call} (other : c.rebuilds = false) :
    g.SameTariffs (g.call c).gate := by
  cases c with
  | transaction config ledger txn now => exact decideTransaction_sameTariffs w config ledger txn
  | query config ledger query payer now => exact decideQuery_sameTariffs w config ledger query payer
  | opsDuration config duration now => exact decideOpsDuration_sameTariffs config duration
  | batch count function now => exact decideBatch_sameTariffs w count function now
  | refundBatch count function => exact refundBatch_sameTariffs count function
  | refundGas config payer amount =>
    change g.SameTariffs (g.refundGas config payer amount)
    unfold Gate.refundGas
    split <;> exact ⟨rfl, rfl, rfl⟩
  | reclaim usages => exact reclaim_sameTariffs usages
  | restore | applyGas | applyBytes | applyOpsDuration | split | verbose => exact ⟨rfl, rfl, rfl⟩
  | rebuild definitions => cases other

/-- A call leaves the requirements of operations as they are, or compiles new ones. -/
theorem call_costs (w : g.WellFormed) (c : Call) :
    (g.call c).gate.operations.costs = g.operations.costs ∨
      ∃ definitions split generation,
        (g.call c).gate.operations = .compile definitions split generation := by
  cases rebuilds : c.rebuilds with
  | true =>
    obtain ⟨definitions, rfl⟩ := Call.rebuilds_iff.mp rebuilds
    exact Or.inr ⟨definitions, g.split, g.nextGeneration, rfl⟩
  | false => exact Or.inl (call_sameTariffs w rebuilds).costs

/-- The requirements of a gate stand in the order of their throttles. -/
theorem Gate.Reached.ordered {allowed : Call → Prop} (reached : g.Reached allowed) :
    g.operations.Ordered := by
  refine Gate.Reached.induction (P := fun g => g.operations.Ordered)
    (fun _ => ThrottleSet.empty_ordered 0) (fun g reached ordered c _ => ?_) reached
  rcases call_costs reached.wellFormed c with same | ⟨definitions, split, generation, compiled⟩
  · unfold ThrottleSet.Ordered
    rw [same]
    exact ordered
  · rw [compiled]
    exact ThrottleSet.compile_ordered definitions split generation

end Throttling
