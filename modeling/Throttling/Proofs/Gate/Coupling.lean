import Throttling.Proofs.Gate.Calls
import Throttling.Proofs.Pointwise
import Throttling.Proofs.ThrottleSet

/-!
# Coupled runs

Two gates whose throttles are related position by position give the same replies to the same calls,
and stay related, if the relation is kept by everything that a gate does to a throttle. A `Coupling`
lists what that is. It has two relations: one between calls, and a finer one within a decision, from
the commit at its start on. `call_related` goes through all calls once; `run_related` follows for
runs. An `Invariant` is a property of single throttles kept in the same way, and holds along runs as
the coupling of a gate with itself.
-/

set_option autoImplicit false

namespace Throttling

/-! ## Related gates -/

/-- Sets that differ in their throttles only, which are related one by one. -/
structure ThrottleSet.Related (R : Throttle → Throttle → Prop) (a b : ThrottleSet) : Prop where
  costs : a.costs = b.costs
  split : a.split = b.split
  generation : a.generation = b.generation
  throttles : List.Forall₂ R a.throttles b.throttles

structure ThrottleSet.Draw.Related (R : Throttle → Throttle → Prop) (a b : ThrottleSet.Draw) :
    Prop where
  granted : a.granted = b.granted
  usages : a.usages = b.usages
  set : a.set.Related R b.set

structure Gate.Related (R : ResourceKind → Throttle → Throttle → Prop) (g h : Gate) : Prop where
  stage : g.stage = h.stage
  verbose : g.verbose = h.verbose
  split : g.split = h.split
  nextGeneration : g.nextGeneration = h.nextGeneration
  operations : ThrottleSet.Related (R .operations) g.operations h.operations
  gas : Option.Rel (R .gas) g.gas h.gas
  bytes : Option.Rel (R .bytes) g.bytes h.bytes
  opsDuration : Option.Rel (R .opsDuration) g.opsDuration h.opsDuration

namespace Gate.Related

variable {R S T : ResourceKind → Throttle → Throttle → Prop} {g h k : Gate}

theorem imp (weaker : ∀ kind a b, R kind a b → S kind a b) (related : g.Related R h) :
    g.Related S h where
  stage := related.stage
  verbose := related.verbose
  split := related.split
  nextGeneration := related.nextGeneration
  operations :=
    { costs := related.operations.costs
      split := related.operations.split
      generation := related.operations.generation
      throttles := related.operations.throttles.imp (weaker _) }
  gas := rel_imp (weaker _) related.gas
  bytes := rel_imp (weaker _) related.bytes
  opsDuration := rel_imp (weaker _) related.opsDuration

theorem comp (compose : ∀ kind a b c, R kind a b → S kind b c → T kind a c)
    (first : g.Related R h) (second : h.Related S k) : g.Related T k where
  stage := first.stage.trans second.stage
  verbose := first.verbose.trans second.verbose
  split := first.split.trans second.split
  nextGeneration := first.nextGeneration.trans second.nextGeneration
  operations :=
    { costs := first.operations.costs.trans second.operations.costs
      split := first.operations.split.trans second.operations.split
      generation := first.operations.generation.trans second.operations.generation
      throttles :=
        forall₂_comp (compose _) first.operations.throttles second.operations.throttles }
  gas := rel_comp (compose _) first.gas second.gas
  bytes := rel_comp (compose _) first.bytes second.bytes
  opsDuration := rel_comp (compose _) first.opsDuration second.opsDuration

theorem and (first : g.Related R h) (second : g.Related S h) :
    g.Related (fun kind a b => R kind a b ∧ S kind a b) h where
  stage := first.stage
  verbose := first.verbose
  split := first.split
  nextGeneration := first.nextGeneration
  operations :=
    { costs := first.operations.costs
      split := first.operations.split
      generation := first.operations.generation
      throttles := forall₂_and first.operations.throttles second.operations.throttles }
  gas := rel_and first.gas second.gas
  bytes := rel_and first.bytes second.bytes
  opsDuration := rel_and first.opsDuration second.opsDuration

end Gate.Related

structure Outcome.Related {α : Type} (R : ResourceKind → Throttle → Throttle → Prop)
    (a b : Outcome α) : Prop where
  result : a.result = b.result
  events : a.events = b.events
  gate : a.gate.Related R b.gate

structure Attempt.Related (R : ResourceKind → Throttle → Throttle → Prop) (a b : Attempt) :
    Prop where
  verdict : a.verdict = b.verdict
  usages : a.usages = b.usages
  events : a.events = b.events
  gate : a.gate.Related R b.gate

/-- Relations of throttles that everything a gate does to them keeps, as long as decisions are made
at `times` and levels restored are `stored`. -/
structure Coupling where
  /-- The relation between calls. -/
  between : ResourceKind → Throttle → Throttle → Prop
  /-- The relation within a decision. -/
  within : ResourceKind → Throttle → Throttle → Prop
  times : Timestamp → Prop
  stored : Snapshot → Prop
  settle : ∀ {kind a b}, within kind a b → between kind a b
  commit : ∀ {kind a b}, between kind a b → within kind a.commit b.commit
  draw? : ∀ {kind a b now}, times now → within kind a b → ∀ amount,
    Option.Rel (within kind) (a.draw? now amount) (b.draw? now amount)
  revoke : ∀ {kind a b}, within kind a b → ∀ amount, within kind (a.revoke amount) (b.revoke amount)
  rollback : ∀ {kind a b}, within kind a b → within kind a.rollback b.rollback
  refund : ∀ {kind a b}, between kind a b → ∀ amount,
    between kind (a.refund amount) (b.refund amount)
  restore : ∀ {kind a b s}, stored s → between kind a b → between kind (a.restore s) (b.restore s)
  /-- New throttles of operations are related to themselves. -/
  compiled : ∀ {definition : BucketDefinition} {split : Nat} {bucket : CompiledBucket},
    definition.compile split = .ok bucket →
      between .operations bucket.throttle bucket.throttle
  /-- New throttles of the other kinds are related to themselves. -/
  perSecond : ∀ {kind}, kind ≠ .operations → ∀ rate burstSeconds,
    between kind (.perSecond kind rate burstSeconds) (.perSecond kind rate burstSeconds)

/-- The relations while a decision is under way, which commits all throttles but that of operation
duration. -/
def Coupling.during (C : Coupling) : ResourceKind → Throttle → Throttle → Prop
  | .opsDuration => C.between .opsDuration
  | kind => C.within kind

variable {C : Coupling} {g h : Gate} {now : Timestamp}

/-! ## Draws -/

section Draws

variable {xs ys : List Throttle}

private theorem draw?_related (time : C.times now)
    (related : List.Forall₂ (C.within .operations) xs ys) (p : Portion) :
    Option.Rel (List.Forall₂ (C.within .operations)) (p.draw? xs now) (p.draw? ys now) := by
  unfold Portion.draw?
  have found := forall₂_getElem? related p.throttle
  cases x : xs[p.throttle]? <;> cases y : ys[p.throttle]? <;> rw [x, y] at found <;> cases found
  · exact .none
  rename_i a b same
  have drawn := C.draw? time same p.amount
  cases u : a.draw? now p.amount <;> cases v : b.draw? now p.amount <;> rw [u, v] at drawn <;>
    cases drawn
  · simp only [Option.bind_eq_bind, Option.bind_some, u, v, Option.bind_none]
    exact .none
  · rename_i kept
    simp only [Option.bind_eq_bind, Option.bind_some, u, v, Option.pure_def]
    exact .some (forall₂_set related _ kept)

private theorem drawAll_related (time : C.times now)
    (related : List.Forall₂ (C.within .operations) xs ys) (ps : List Portion) :
    (Portion.drawAll now ps xs).1 = (Portion.drawAll now ps ys).1 ∧
      List.Forall₂ (C.within .operations) (Portion.drawAll now ps xs).2
        (Portion.drawAll now ps ys).2 := by
  induction ps generalizing xs ys with
  | nil => exact ⟨rfl, related⟩
  | cons p ps ih =>
    have first := draw?_related time related p
    cases x : p.draw? xs now <;> cases y : p.draw? ys now <;> rw [x, y] at first <;> cases first
    · rw [Portion.drawAll_cons_of_none x, Portion.drawAll_cons_of_none y]
      exact ⟨rfl, related⟩
    rename_i kept
    obtain ⟨verdict, rest⟩ := ih kept
    rw [Portion.drawAll_cons x, Portion.drawAll_cons y, verdict]
    refine ⟨rfl, ?_⟩
    dsimp only
    split
    · exact rest
    · exact forall₂_modify rest _ fun _ _ h => C.revoke h _

private theorem draw_related (time : C.times now)
    (related : List.Forall₂ (C.within .operations) xs ys) (tariff : Tariff) (quantity : Nat)
    (scale : ScaleFactor) :
    (tariff.draw xs now quantity scale).granted = (tariff.draw ys now quantity scale).granted ∧
      (tariff.draw xs now quantity scale).usages = (tariff.draw ys now quantity scale).usages ∧
      List.Forall₂ (C.within .operations) (tariff.draw xs now quantity scale).throttles
        (tariff.draw ys now quantity scale).throttles := by
  obtain ⟨verdict, rest⟩ := drawAll_related time related (tariff.portions quantity scale)
  rw [Tariff.draw_eq, Tariff.draw_eq, verdict]
  exact ⟨rfl, rfl, rest⟩

/-- The tariffs of a set do not depend on its throttles. -/
theorem ThrottleSet.Related.tariff?_eq {R : Throttle → Throttle → Prop} {a b : ThrottleSet}
    (related : a.Related R b) (function : Functionality) :
    a.tariff? function = b.tariff? function := by
  simp only [ThrottleSet.tariff?, ThrottleSet.requirements, related.costs, related.generation]

private theorem set_draw?_related (time : C.times now) {a b : ThrottleSet}
    (related : a.Related (C.within .operations) b) (function : Functionality) (quantity : Nat)
    (scale : ScaleFactor) :
    Option.Rel (ThrottleSet.Draw.Related (C.within .operations))
      (a.draw? function now quantity scale) (b.draw? function now quantity scale) := by
  unfold ThrottleSet.draw?
  rw [related.tariff?_eq]
  cases b.tariff? function with
  | none => exact .none
  | some tariff =>
    obtain ⟨granted, usages, throttles⟩ := draw_related time related.throttles tariff quantity scale
    exact .some ⟨granted, usages, related.costs, related.split, related.generation, throttles⟩

end Draws

/-! ## Decisions -/

private theorem commit_related (related : g.Related C.between h) :
    g.commit.Related C.during h.commit where
  stage := related.stage
  verbose := related.verbose
  split := related.split
  nextGeneration := related.nextGeneration
  operations :=
    { costs := related.operations.costs
      split := related.operations.split
      generation := related.operations.generation
      throttles := forall₂_map (fun _ _ => C.commit) related.operations.throttles }
  gas := rel_map (fun _ _ => C.commit) related.gas
  bytes := rel_map (fun _ _ => C.commit) related.bytes
  opsDuration := related.opsDuration

private theorem rollback_related (related : g.Related C.during h) :
    g.rollback.Related C.during h.rollback where
  stage := related.stage
  verbose := related.verbose
  split := related.split
  nextGeneration := related.nextGeneration
  operations :=
    { costs := related.operations.costs
      split := related.operations.split
      generation := related.operations.generation
      throttles := forall₂_map (fun _ _ => C.rollback) related.operations.throttles }
  gas := rel_map (fun _ _ => C.rollback) related.gas
  bytes := rel_map (fun _ _ => C.rollback) related.bytes
  opsDuration := related.opsDuration

private theorem settle_related (related : g.Related C.during h) : g.Related C.between h :=
  related.imp fun kind a b same => by
    cases kind with
    | opsDuration => exact same
    | operations | gas | bytes => exact C.settle same

/-- Moving on after related attempts gives related attempts. -/
private theorem andThen_related {a b : Attempt} (related : a.Related C.during b)
    {next next' : Gate → Attempt}
    (rest : ∀ {g h : Gate}, g.Related C.during h → (next g).Related C.during (next' h)) :
    (a.andThen next).Related C.during (b.andThen next') := by
  unfold Attempt.andThen
  rw [related.verdict]
  split
  · have more := rest related.gate
    exact
      { verdict := more.verdict
        usages := congrArg₂ _ related.usages more.usages
        events := congrArg₂ _ related.events more.events
        gate := more.gate }
  · exact related

private theorem usage_eq {R : ResourceKind → Throttle → Throttle → Prop} (related : g.Related R h)
    (throttle : ThrottleRef) (amount : Nat) :
    g.usage throttle amount = h.usage throttle amount := by
  simp only [Gate.usage, related.operations.generation]

private theorem chargeGas_related (time : C.times now) (related : g.Related C.during h)
    (config : Config) (txn : Transaction) :
    (g.chargeGas config txn now).Related C.during (h.chargeGas config txn now) := by
  unfold Gate.chargeGas
  split
  · have gas := related.gas
    generalize g.gas = t, h.gas = u at gas ⊢
    cases gas with
    | none => exact ⟨rfl, rfl, rfl, related⟩
    | @some a b same =>
      have drawn := C.draw? time same (txn.body.data.gasLimit txn.function)
      dsimp only
      generalize a.draw? now _ = a', b.draw? now _ = b' at drawn ⊢
      cases drawn with
      | none => exact ⟨rfl, rfl, rfl, { related with gas := .some same }⟩
      | some kept =>
        dsimp only
        rw [usage_eq related]
        exact ⟨rfl, rfl, rfl, { related with gas := .some kept }⟩
  · exact ⟨rfl, rfl, rfl, related⟩

private theorem chargeBytes_related (time : C.times now) (related : g.Related C.during h)
    (config : Config) (txn : Transaction) :
    (g.chargeBytes config txn now).Related C.during (h.chargeBytes config txn now) := by
  unfold Gate.chargeBytes
  dsimp only
  split
  · have bytes := related.bytes
    generalize g.bytes = t, h.bytes = u at bytes ⊢
    cases bytes with
    | none => exact ⟨rfl, rfl, rfl, related⟩
    | @some a b same =>
      have drawn := C.draw? time same (Gate.excessBytes config txn)
      dsimp only
      generalize a.draw? now _ = a', b.draw? now _ = b' at drawn ⊢
      cases drawn with
      | none => exact ⟨rfl, rfl, rfl, related⟩
      | some kept =>
        dsimp only
        rw [usage_eq related]
        exact ⟨rfl, rfl, rfl, { related with bytes := .some kept }⟩
  · exact ⟨rfl, rfl, rfl, related⟩

private theorem drawOperations_related (time : C.times now) (related : g.Related C.during h)
    (function : Functionality) (quantity : Nat) (scale : ScaleFactor) :
    (g.drawOperations function now quantity scale).1 =
        (h.drawOperations function now quantity scale).1 ∧
      (g.drawOperations function now quantity scale).2.1.Related C.during
        (h.drawOperations function now quantity scale).2.1 ∧
      (g.drawOperations function now quantity scale).2.2 =
        (h.drawOperations function now quantity scale).2.2 := by
  have drawn := set_draw?_related time related.operations function quantity scale
  unfold Gate.drawOperations
  generalize g.operations.draw? _ now _ _ = d, h.operations.draw? _ now _ _ = e at drawn ⊢
  cases drawn with
  | none => exact ⟨rfl, related, rfl⟩
  | some same => exact ⟨same.granted, { related with operations := same.set }, same.usages⟩

private theorem chargeDemand_related (time : C.times now) (related : g.Related C.during h)
    (config : Config) (ledger : LedgerView) (demand : Demand) :
    (g.chargeDemand config ledger now demand).Related C.during
      (h.chargeDemand config ledger now demand) := by
  have drawn := drawOperations_related time related demand.function demand.quantity demand.scale
  unfold Gate.chargeDemand
  generalize g.drawOperations demand.function now demand.quantity demand.scale = d,
    h.drawOperations demand.function now demand.quantity demand.scale = e at drawn ⊢
  obtain ⟨granted, g', used⟩ := d
  obtain ⟨granted', h', used'⟩ := e
  dsimp only at drawn
  obtain ⟨rfl, rest, rfl⟩ := drawn
  cases granted with
  | false => exact ⟨rfl, rfl, rfl, rest⟩
  | true =>
    have full : g'.expiryFull config ledger demand.expiry =
        h'.expiryFull config ledger demand.expiry := by
      unfold Gate.expiryFull
      rw [rest.stage]
    dsimp only
    rw [full]
    split
    · exact ⟨rfl, rfl, rfl, rest⟩
    · exact ⟨rfl, rfl, rfl, rest⟩

private theorem chargeOperations_related (time : C.times now) (related : g.Related C.during h)
    (config : Config) (ledger : LedgerView) (txn : Transaction) :
    (g.chargeOperations config ledger txn now).Related C.during
      (h.chargeOperations config ledger txn now) := by
  unfold Gate.chargeOperations
  rw [related.operations.tariff?_eq]
  split
  · exact ⟨rfl, rfl, rfl, related⟩
  · split
    · exact chargeDemand_related time related config ledger _
    · exact ⟨rfl, rfl, rfl, related⟩
    · exact ⟨rfl, rfl, rfl, related⟩

private theorem charge_related (time : C.times now) (related : g.Related C.during h)
    (config : Config) (ledger : LedgerView) (txn : Transaction) :
    (g.charge config ledger txn now).Related C.during (h.charge config ledger txn now) := by
  unfold Gate.charge
  split
  · exact ⟨rfl, rfl, rfl, related⟩
  · refine andThen_related (andThen_related (chargeGas_related time related config txn) ?_) ?_
    · exact fun related => chargeBytes_related time related config txn
    · exact fun related => chargeOperations_related time related config ledger txn

private theorem decideTransaction_related (time : C.times now) (related : g.Related C.between h)
    (config : Config) (ledger : LedgerView) (txn : Transaction) :
    (g.decideTransaction config ledger txn now).Related C.between
      (h.decideTransaction config ledger txn now) := by
  unfold Gate.decideTransaction
  rw [related.stage]
  split
  · exact ⟨rfl, rfl, related⟩
  · have committed := commit_related related
    have attempts := charge_related time
      (g := { g.commit with deniedByGas := false }) (h := { h.commit with deniedByGas := false })
      { committed with } config ledger txn
    dsimp only
    rw [attempts.verdict, attempts.usages, attempts.events]
    split
    · exact ⟨rfl, rfl, settle_related attempts.gate⟩
    · exact ⟨rfl, rfl, settle_related (rollback_related attempts.gate)⟩

private theorem decideOperations_related (time : C.times now) (related : g.Related C.between h)
    (function : Functionality) (quantity : Nat) :
    (g.decideOperations function now quantity).Related C.between
      (h.decideOperations function now quantity) := by
  have committed := commit_related related
  have drawn := set_draw?_related time committed.operations function quantity .one
  unfold Gate.decideOperations
  dsimp only
  generalize g.commit.operations.draw? _ now _ _ = d, h.commit.operations.draw? _ now _ _ = e
    at drawn ⊢
  cases drawn with
  | none => exact ⟨rfl, rfl, settle_related committed⟩
  | @some a b same =>
    have after : Gate.Related C.during { g.commit with operations := a.set }
        { h.commit with operations := b.set } := { committed with operations := same.set }
    dsimp only
    rw [same.granted]
    split
    · exact ⟨rfl, rfl, settle_related after⟩
    · exact ⟨rfl, rfl, settle_related (rollback_related after)⟩

private theorem decideGasQuery_related (time : C.times now) (related : g.Related C.between h)
    (query : Query) :
    (g.decideGasQuery query now).Related C.between (h.decideGasQuery query now) := by
  unfold Gate.decideGasQuery
  have gas := related.gas
  generalize g.gas = t, h.gas = u at gas ⊢
  cases gas with
  | none => exact ⟨rfl, rfl, related⟩
  | @some a b same =>
    have committed := C.commit same
    have drawn := C.draw? time committed (Gate.queryGas query)
    dsimp only
    generalize a.commit.draw? now _ = a', b.commit.draw? now _ = b' at drawn ⊢
    cases drawn with
    | none => exact ⟨rfl, rfl, { related with gas := .some (C.settle committed) }⟩
    | some kept =>
      exact ⟨rfl, rfl, { related with gas := .some (C.settle (C.commit (C.settle kept))) }⟩

private theorem decideQuery_related (time : C.times now) (related : g.Related C.between h)
    (config : Config) (ledger : LedgerView) (query : Query) (payer : Option AccountId) :
    (g.decideQuery config ledger query payer now).Related C.between
      (h.decideQuery config ledger query payer now) := by
  unfold Gate.decideQuery
  rw [related.stage]
  split
  · exact ⟨rfl, rfl, related⟩
  · split
    · exact ⟨rfl, rfl, related⟩
    · split
      · split
        · exact decideGasQuery_related time related query
        · exact ⟨rfl, rfl, related⟩
      · exact decideOperations_related time related _ _

private theorem decideOpsDuration_related (time : C.times now) (related : g.Related C.between h)
    (config : Config) (duration : Nat) :
    (g.decideOpsDuration config duration now).Related C.between
      (h.decideOpsDuration config duration now) := by
  unfold Gate.decideOpsDuration
  dsimp only
  rw [related.stage]
  split
  · exact ⟨rfl, rfl, related⟩
  · have own := related.opsDuration
    generalize g.opsDuration = t, h.opsDuration = u at own ⊢
    cases own with
    | none => exact ⟨rfl, rfl, related⟩
    | @some a b same =>
      have committed := C.commit same
      have drawn := C.draw? time committed duration
      dsimp only
      split
      · generalize a.commit.draw? now _ = a', b.commit.draw? now _ = b' at drawn ⊢
        cases drawn with
        | none =>
          exact ⟨rfl, rfl,
            { related with
              stage := rfl
              opsDuration := .some (C.settle (C.rollback committed)) }⟩
        | some kept =>
          exact ⟨rfl, rfl, { related with stage := rfl, opsDuration := .some (C.settle kept) }⟩
      · exact ⟨rfl, rfl, { related with stage := rfl, opsDuration := .some (C.settle committed) }⟩

private theorem decideBatch_related (time : C.times now) (related : g.Related C.between h)
    (count : Nat) (function : Functionality) :
    (g.decideBatch count function now).Related C.between
      (h.decideBatch count function now) := by
  unfold Gate.decideBatch
  rw [related.stage]
  split
  · exact ⟨rfl, rfl, related⟩
  · exact decideOperations_related time related function count

/-! ## Giving back -/

private theorem tariff_refund_related {xs ys : List Throttle}
    (related : List.Forall₂ (C.between .operations) xs ys) (tariff : Tariff) (quantity : Nat) :
    List.Forall₂ (C.between .operations) (tariff.refund xs quantity)
      (tariff.refund ys quantity) := by
  unfold Tariff.refund
  induction tariff.requirements generalizing xs ys with
  | nil => exact related
  | cons r rs ih => exact ih (forall₂_modify related _ fun _ _ h => C.refund h _)

private theorem refundBatch_related (related : g.Related C.between h) (count : Nat)
    (function : Functionality) :
    (g.call (.refundBatch count function)).Related C.between
      (h.call (.refundBatch count function)) := by
  simp only [Gate.call, Gate.refundBatch, ThrottleSet.refund, related.stage,
    related.operations.tariff?_eq]
  by_cases passthrough : h.stage = .passthrough
  · rw [if_pos passthrough, if_pos passthrough]
    exact ⟨rfl, rfl, related⟩
  rw [if_neg passthrough, if_neg passthrough]
  cases h.operations.tariff? function with
  | none => exact ⟨rfl, rfl, related⟩
  | some tariff =>
    have operations := related.operations
    have refunded := tariff_refund_related operations.throttles tariff count
    exact ⟨rfl, rfl,
      { related with stage := rfl, operations := { operations with throttles := refunded } }⟩

private theorem refundGas_related (related : g.Related C.between h) (config : Config)
    (payer : AccountId) (amount : Nat) :
    (g.refundGas config payer amount).Related C.between (h.refundGas config payer amount) := by
  have gas : Option.Rel (C.between .gas) (g.gas.map (·.refund amount))
      (h.gas.map (·.refund amount)) :=
    rel_map (fun _ _ h => C.refund h amount) related.gas
  unfold Gate.refundGas
  by_cases free : h.stage = .passthrough ∨ config.isExempt payer = true
  · rw [related.stage, if_pos free, if_pos free]
    exact related
  · rw [if_neg (related.stage ▸ free), if_neg free]
    exact { related with gas := gas }

private theorem reclaimUsage_related (related : g.Related C.between h) (usage : Usage) :
    (g.reclaimUsage usage).Related C.between (h.reclaimUsage usage) := by
  unfold Gate.reclaimUsage
  cases usage.throttle with
  | operations index =>
    dsimp only
    rw [related.operations.generation]
    have operations := related.operations
    have refunded := forall₂_modify operations.throttles index fun _ _ h => C.refund h usage.amount
    split
    · exact
        { related with
          operations := { operations with generation := rfl, throttles := refunded } }
    · exact related
  | gas => exact { related with gas := rel_map (fun _ _ h => C.refund h _) related.gas }
  | bytes => exact { related with bytes := rel_map (fun _ _ h => C.refund h _) related.bytes }
  | opsDuration =>
    exact { related with opsDuration := rel_map (fun _ _ h => C.refund h _) related.opsDuration }

private theorem reclaim_related (related : g.Related C.between h) (usages : List Usage) :
    (g.reclaim usages).Related C.between (h.reclaim usages) := by
  unfold Gate.reclaim
  induction usages generalizing g h with
  | nil => exact related
  | cons u us ih => exact ih (reclaimUsage_related related u)

private theorem restoreEach_related {xs ys : List Throttle}
    (related : List.Forall₂ (C.between .operations) xs ys) (levels : List Snapshot)
    (stored : ∀ s ∈ levels, C.stored s) :
    List.Forall₂ (C.between .operations) (Gate.restoreEach xs levels)
      (Gate.restoreEach ys levels) := by
  induction related generalizing levels with
  | nil => exact .nil
  | cons head tail ih =>
    cases levels with
    | nil => exact .cons head tail
    | cons s ss =>
      have rest := ih ss fun s member => stored s (List.mem_cons_of_mem _ member)
      exact .cons (C.restore (stored s List.mem_cons_self) head) rest

private theorem restoreOne_related {kind : ResourceKind} {x y : Option Throttle}
    (related : Option.Rel (C.between kind) x y) (level : Option Snapshot)
    (stored : ∀ s ∈ level, C.stored s) :
    Option.Rel (C.between kind) (Gate.restoreOne x level) (Gate.restoreOne y level) := by
  cases related with
  | none => exact .none
  | some same =>
    cases level with
    | none => exact .some same
    | some s => exact .some (C.restore (stored s rfl) same)

private theorem restore_related (related : g.Related C.between h) (snapshots : Snapshots)
    (stored : ∀ s ∈ (Call.restore snapshots).levels, C.stored s) :
    (g.restore snapshots).Related C.between (h.restore snapshots) := by
  have operations := related.operations
  have length := operations.throttles.length_eq
  simp only [Call.levels, List.mem_append, Option.mem_toList] at stored
  refine ⟨rfl, ?_, ?_⟩
  · simp only [Gate.restore, length]
  · have each := restoreEach_related operations.throttles snapshots.operations
      fun s member => stored s (Or.inl (Or.inl member))
    have gas := restoreOne_related related.gas snapshots.gas
      fun s member => stored s (Or.inl (Or.inr member))
    have opsDuration := restoreOne_related related.opsDuration snapshots.opsDuration
      fun s member => stored s (Or.inr member)
    exact
      { related with
        operations := { operations with throttles := each }
        gas
        opsDuration }

/-! ## Reconfiguration -/

private theorem compile_related (definitions : Definitions) (split generation : Nat) :
    (ThrottleSet.compile definitions split generation).Related (C.between .operations)
      (ThrottleSet.compile definitions split generation) := by
  refine ⟨rfl, rfl, rfl, List.forall₂_same.mpr fun t member => ?_⟩
  obtain ⟨bucket, accepted, rfl⟩ := List.mem_map.mp member
  obtain ⟨b, -, compiled⟩ := ThrottleSet.mem_accepted_iff.mp accepted
  exact C.compiled compiled

private theorem rebuild_related (related : g.Related C.between h) (definitions : Definitions) :
    (g.rebuild definitions).Related C.between (h.rebuild definitions) := by
  have summary : (g.rebuild definitions).gate.summary = (h.rebuild definitions).gate.summary := by
    simp only [Gate.summary, Gate.rebuild, related.stage, related.split, related.nextGeneration]
  refine ⟨rfl, ?_, ?_⟩
  · change (_ ++ if g.verbose then [Event.definitionsResolved (g.rebuild definitions).gate.summary]
        else []) =
      _ ++ if h.verbose then [Event.definitionsResolved (h.rebuild definitions).gate.summary]
        else []
    rw [summary, related.split, related.verbose]
  · have operations := compile_related (C := C) definitions h.split h.nextGeneration
    exact
      { related with
        nextGeneration := by simp only [Gate.rebuild, related.nextGeneration]
        operations := by
          simpa only [Gate.rebuild, related.split, related.nextGeneration] using operations }

private theorem resolved_eq {R : ResourceKind → Throttle → Throttle → Prop}
    (related : g.Related R h)
    (throttle : Throttle) (enabled : Bool) :
    g.resolved throttle enabled = h.resolved throttle enabled := by
  unfold Gate.resolved
  rw [related.stage, related.verbose]

private theorem gasThrottleOf_related (stage : Stage) (contracts : ContractsConfig) :
    C.between .gas (Gate.gasThrottleOf stage contracts) (Gate.gasThrottleOf stage contracts) := by
  cases stage <;> exact C.perSecond (by decide) _ _

/-! ## Calls and runs -/

/-- Every call keeps gates related and answers both alike. -/
theorem call_related {c : Call} (allowed : c.Allowed C.times C.stored)
    (related : g.Related C.between h) : (g.call c).Related C.between (h.call c) := by
  have decided {α : Type} {a b : Outcome α} (f : α → Reply) (same : a.Related C.between b) :
      (a.map f).Related C.between (b.map f) :=
    ⟨congrArg f same.result, same.events, same.gate⟩
  cases c with
  | transaction config ledger txn now =>
    exact decided _ (decideTransaction_related (allowed.time now rfl) related config ledger txn)
  | query config ledger query payer now =>
    exact decided _ (decideQuery_related (allowed.time now rfl) related config ledger query payer)
  | opsDuration config duration now =>
    exact decided _ (decideOpsDuration_related (allowed.time now rfl) related config duration)
  | batch count function now =>
    exact decided _ (decideBatch_related (allowed.time now rfl) related count function)
  | refundBatch count function => exact refundBatch_related related count function
  | refundGas config payer amount =>
    exact ⟨rfl, rfl, refundGas_related related config payer amount⟩
  | reclaim usages => exact ⟨rfl, rfl, reclaim_related related usages⟩
  | restore snapshots =>
    exact decided (fun _ => .done) (restore_related related snapshots allowed.levels)
  | rebuild definitions => exact decided (fun _ => .done) (rebuild_related related definitions)
  | applyGas config =>
    have gas := gasThrottleOf_related (C := C) h.stage config.contracts
    refine ⟨rfl, ?_, ?_⟩
    · simp only [Gate.call, Gate.applyGas, Outcome.map, resolved_eq related, related.stage]
    · simp only [Gate.call, Gate.applyGas, Outcome.map, related.stage]
      exact { related with stage := rfl, gas := .some gas }
  | applyBytes config =>
    exact ⟨rfl, resolved_eq related _ _,
      { related with bytes := .some (C.perSecond (by decide) _ _) }⟩
  | applyOpsDuration config =>
    exact ⟨rfl, resolved_eq related _ _,
      { related with opsDuration := .some (C.perSecond (by decide) _ _) }⟩
  | split ways => exact ⟨rfl, rfl, { related with split := rfl }⟩
  | verbose on => exact ⟨rfl, rfl, { related with verbose := rfl }⟩

/-- Runs of the same calls keep gates related. -/
theorem run_related {calls : List Call} (allowed : ∀ c ∈ calls, c.Allowed C.times C.stored)
    (related : g.Related C.between h) : (g.run calls).Related C.between (h.run calls) := by
  induction calls generalizing g h with
  | nil => exact related
  | cons c cs ih =>
    have first := call_related (allowed c List.mem_cons_self) related
    exact ih (fun c member => allowed c (List.mem_cons_of_mem _ member)) first.gate

/-- Runs of the same calls answer alike on related gates. -/
theorem replies_eq_of_related {calls : List Call}
    (allowed : ∀ c ∈ calls, c.Allowed C.times C.stored) (related : g.Related C.between h) :
    g.replies calls = h.replies calls := by
  induction calls generalizing g h with
  | nil => rfl
  | cons c cs ih =>
    have first := call_related (allowed c List.mem_cons_self) related
    have rest := ih (fun c member => allowed c (List.mem_cons_of_mem _ member)) first.gate
    simp only [Gate.replies, first.result, first.events, rest]

/-- A gate without throttles is related to itself. -/
theorem new_related (R : ResourceKind → Throttle → Throttle → Prop) (stage : Stage) :
    (Gate.new stage).Related R (Gate.new stage) :=
  ⟨rfl, rfl, rfl, rfl, ⟨rfl, rfl, rfl, .nil⟩, .none, .none, .none⟩

end Throttling
