import Throttling.Proofs.Gate.Queries

/-!
# Schedules of transfers

In short-term scheduling the creation of a schedule for a transfer that creates accounts is charged
for the creations at once, as the transfer would be. The schedule is looked at through the
transaction that it carries, and only if that refers to an account by alias; the transfer is counted
straight away. Neither is metered in gas, and where no functionality may be larger than standard
neither is charged for its octets. So both decisions come to that of one demand
(`decideTransaction_eq_decideDemand`), and since a transfer that creates accounts always names an
alias it is the same demand (`schedule_charged_like_transfer`).
-/

set_option autoImplicit false

namespace Throttling

/-! ## Decisions on a demand -/

def Attempt.outcome (a : Attempt) : Outcome Decision :=
  if a.verdict = .allowed then ⟨a.gate, ⟨.allowed, a.usages⟩, a.events⟩
  else ⟨a.gate.rollback, ⟨a.verdict, []⟩, a.events⟩

/-- Decide a demand that is all a transaction is charged for. -/
def Gate.decideDemand (g : Gate) (config : Config) (ledger : LedgerView) (now : Timestamp)
    (demand : Demand) : Outcome Decision :=
  (Gate.chargeDemand { g.commit with deniedByGas := false } config ledger now demand).outcome

/-- The outcome is that of a charge of so many units of a functionality and of nothing else: they
are admitted exactly if there is room for them, and what is recorded then accounts for the draws. -/
structure Gate.ChargedAs (g : Gate) (now : Timestamp) (function : Functionality) (quantity : Nat)
    (outcome : Outcome Decision) : Prop where
  admitted_iff : outcome.result.verdict = .allowed ↔
    g.operations.HasRoom function now quantity .one
  /-- A refusal is for lack of capacity. -/
  refused : outcome.result.verdict ≠ .allowed → outcome.result = ⟨.throttled, []⟩
  /-- The requirements of the functionality are recorded times the quantity, in 64 bits. -/
  recorded : outcome.result.verdict = .allowed →
    ∃ tariff, g.operations.tariff? function = some tariff ∧
      outcome.result.usages = tariff.requirements.map fun r =>
        ⟨.operations r.throttle, Word.saturate64 (r.milliOps * quantity), g.operations.generation⟩
  accounts : outcome.result.verdict = .allowed → g.Accounts now outcome.result.usages outcome.gate

variable {g : Gate} {now : Timestamp} {config : Config} {ledger : LedgerView} {txn : Transaction}
  {demand : Demand}

theorem decideTransaction_eq_outcome (active : g.stage ≠ .passthrough) :
    g.decideTransaction config ledger txn now =
      (Gate.charge { g.commit with deniedByGas := false } config ledger txn now).outcome :=
  if_neg active

theorem pass_andThen (g : Gate) (next : Gate → Attempt) :
    (Attempt.pass g).andThen next = next g := rfl

/-- A transaction that is metered neither in gas nor in bytes is charged its demand. -/
theorem charge_eq_chargeDemand (charged : config.isExempt txn.payer = false)
    (ungassed : txn.function.gasMetered = false) (standard : config.jumbo.enabled = false)
    (present : (g.operations.tariff? txn.function).isSome = true)
    (route : Route.ofTransaction config ledger txn = .charge demand) :
    g.charge config ledger txn now = g.chargeDemand config ledger now demand := by
  have gas : g.chargeGas config txn now = .pass g := by
    unfold Gate.chargeGas
    rw [ungassed, Bool.and_false]
    rfl
  have bytes : g.chargeBytes config txn now = .pass g := by
    have free : Gate.excessBytes config txn = 0 := by
      unfold Gate.excessBytes
      rw [standard]
      rfl
    unfold Gate.chargeBytes
    rw [free]
    rfl
  unfold Gate.charge
  rw [charged, if_neg Bool.false_ne_true, gas, pass_andThen, bytes, pass_andThen]
  unfold Gate.chargeOperations
  rw [Option.isNone_eq_false_iff.mpr present, route]
  rfl

/-- Hence it is decided on its demand, whatever else it says. -/
theorem decideTransaction_eq_decideDemand (active : g.stage ≠ .passthrough)
    (charged : config.isExempt txn.payer = false) (ungassed : txn.function.gasMetered = false)
    (standard : config.jumbo.enabled = false)
    (present : (g.operations.tariff? txn.function).isSome = true)
    (route : Route.ofTransaction config ledger txn = .charge demand) :
    g.decideTransaction config ledger txn now = g.decideDemand config ledger now demand := by
  have committed : (g.commit.operations.tariff? txn.function).isSome = true := present
  rw [decideTransaction_eq_outcome active]
  exact congrArg Attempt.outcome
    (charge_eq_chargeDemand charged ungassed standard committed route)

/-- A demand is refused for lack of capacity, or allowed with the draw that is granted. -/
theorem chargeDemand_cases (g : Gate) (config : Config) (ledger : LedgerView) (now : Timestamp)
    (demand : Demand) :
    (g.chargeDemand config ledger now demand).verdict = .throttled ∨
      ∃ draw, g.operations.draw? demand.function now demand.quantity demand.scale = some draw ∧
        draw.granted = true ∧
        g.chargeDemand config ledger now demand =
          ⟨{ g with operations := draw.set }, .allowed, draw.usages, []⟩ := by
  unfold Gate.chargeDemand Gate.drawOperations
  cases drawn : g.operations.draw? demand.function now demand.quantity demand.scale with
  | none => exact Or.inl rfl
  | some draw =>
    dsimp only
    cases granted : draw.granted with
    | false => exact Or.inl rfl
    | true =>
      dsimp only
      split
      · exact Or.inl rfl
      · exact Or.inr ⟨draw, rfl, granted, rfl⟩

/-- An unscaled demand without a schedule to cap is admitted exactly if there is room for it. -/
theorem decideDemand_admitted_iff (w : g.WellFormed) (ordered : g.operations.Ordered)
    (config : Config) (ledger : LedgerView) (now : Timestamp) (function : Functionality)
    (quantity : Nat) :
    (Gate.chargeDemand { g.commit with deniedByGas := false } config ledger now
        ⟨function, quantity, .one, none⟩).verdict = .allowed ↔
      g.operations.HasRoom function now quantity .one := by
  have committed : Gate.WellFormed { g.commit with deniedByGas := false } :=
    { commit_wellFormed w with }
  have uncapped : Gate.expiryFull { g.commit with deniedByGas := false } config ledger none =
      false := by
    unfold Gate.expiryFull
    split
    · rename_i capped
      cases capped
    · rfl
  have room : g.commit.operations.HasRoom = g.operations.HasRoom := hasRoom_commit g.operations
  rw [chargeDemand_allowed_iff committed ordered, uncapped, and_iff_left rfl, ← room]

/-- Such a demand, if it is for anything, is charged as its units. -/
theorem decideDemand_chargedAs {allowed : Call → Prop} (reached : g.Reached allowed)
    (config : Config) (ledger : LedgerView) (now : Timestamp) (function : Functionality)
    {quantity : Nat} (positive : 0 < quantity) :
    g.ChargedAs now function quantity
      (g.decideDemand config ledger now ⟨function, quantity, .one, none⟩) := by
  have admitted_iff := decideDemand_admitted_iff reached.wellFormed reached.ordered config ledger now
    function quantity
  unfold Gate.decideDemand
  rcases chargeDemand_cases { g.commit with deniedByGas := false } config ledger now
    ⟨function, quantity, .one, none⟩ with refused | ⟨draw, drawn, granted, charged⟩
  · generalize Gate.chargeDemand _ config ledger now _ = attempt at admitted_iff refused
    have closed : attempt.verdict ≠ .allowed := by simp [refused]
    have outcome : attempt.outcome = ⟨attempt.gate.rollback, ⟨.throttled, []⟩, attempt.events⟩ := by
      unfold Attempt.outcome
      rw [if_neg closed, refused]
    rw [outcome]
    exact ⟨iff_of_false (by simp) (mt admitted_iff.mpr closed), fun _ => rfl, by simp, by simp⟩
  · rw [charged] at admitted_iff ⊢
    obtain ⟨tariff, found, rfl⟩ := Option.map_eq_some_iff.mp drawn
    have own : g.operations.tariff? function = some tariff := found
    have drew := set_draw?_drew (commit_wellFormed reached.wellFormed) reached.ordered drawn granted
    refine ⟨admitted_iff, fun refused => absurd rfl refused, fun _ => ⟨tariff, own, ?_⟩,
      fun _ => ?_⟩
    · have recorded := ThrottleSet.usages_one own fun r member =>
        Nat.mul_pos (reached.milliOps_pos own r member) positive
      exact (Tariff.usages_of_granted granted).trans recorded
    · exact Gate.Drew.accounts { drew with } (by decide)

/-! ## Routes -/

section

variable {costs : CostContext} {transfer : Transfer} {schedule : ScheduleCreate}
  {payer : AccountId} {id : Option TransactionId} {size : Nat}

/-- A transfer that creates accounts is charged for them. -/
theorem ofTransaction_transfer
    (context : costs = ⟨ledger, config.ledger.shard, config.ledger.realm⟩)
    (creates : 0 < costs.transferCreations transfer) :
    Route.ofTransaction config ledger (.ofBody payer ⟨id, .cryptoTransfer transfer⟩ size) =
      .units .cryptoCreate (costs.transferCreations transfer) := by
  subst context
  exact if_pos creates

/-- In short-term scheduling the creation of a schedule for a transfer is charged for the accounts
that the transfer creates, if there are any: it refers to an alias then. -/
theorem ofTransaction_schedule
    (context : costs = ⟨ledger, config.ledger.shard, config.ledger.realm⟩)
    (shortTerm : config.scheduling.longTermEnabled = false)
    (scheduled : schedule.scheduled = some (.cryptoTransfer transfer)) :
    Route.ofTransaction config ledger (.ofBody payer ⟨id, .scheduleCreate schedule⟩ size) =
      if 0 < costs.transferCreations transfer then
        .units .cryptoCreate (costs.transferCreations transfer)
      else .single .scheduleCreate := by
  have inner : schedule.inner payer (TransactionBody.validStart ⟨id, .scheduleCreate schedule⟩) =
      .ok ⟨some ⟨payer, TransactionBody.validStart ⟨id, .scheduleCreate schedule⟩⟩,
        .cryptoTransfer transfer⟩ := by
    unfold ScheduleCreate.inner
    rw [scheduled]
    rfl
  have route : Route.ofTransaction config ledger
      (.ofBody payer ⟨id, .scheduleCreate schedule⟩ size) =
        if transfer.usesAliases = true ∧ 0 < costs.transferCreations transfer then
          .units .cryptoCreate (costs.transferCreations transfer)
        else .single .scheduleCreate := by
    subst context
    change Route.ofSchedule config _ payer ⟨id, .scheduleCreate schedule⟩ = _
    unfold Route.ofSchedule
    dsimp only
    rw [inner]
    dsimp only
    unfold Route.ofScheduled
    rw [shortTerm, if_neg Bool.false_ne_true]
    rfl
  rw [route]
  exact if_congr (and_iff_right_of_imp usesAliases_of_transferCreations_pos) rfl rfl

end

/-! ## Schedules and transfers -/

/-- In short-term scheduling, where no transaction may be larger than standard, the creation of a
schedule for a transfer that creates accounts is decided as the transfer: both are charged as the
creation of so many accounts. For any other transfer the creation of a schedule is charged as one of
its own kind. A transfer that creates accounts refers to one by alias. -/
theorem schedule_charged_like_transfer {allowed : Call → Prop} (reached : g.Reached allowed)
    (active : g.stage ≠ .passthrough) (shortTerm : config.scheduling.longTermEnabled = false)
    (standard : config.jumbo.enabled = false)
    (transfers : (g.operations.tariff? .cryptoTransfer).isSome = true)
    (schedules : (g.operations.tariff? .scheduleCreate).isSome = true) {payer : AccountId}
    (charged : config.isExempt payer = false) (ledger : LedgerView) (now : Timestamp)
    {transfer : Transfer} {schedule : ScheduleCreate}
    (scheduled : schedule.scheduled = some (.cryptoTransfer transfer))
    (id id' : Option TransactionId) (size size' : Nat) :
    let creations := CostContext.transferCreations
      ⟨ledger, config.ledger.shard, config.ledger.realm⟩ transfer
    let direct := g.decideTransaction config ledger
      (.ofBody payer ⟨id, .cryptoTransfer transfer⟩ size) now
    let wrapped := g.decideTransaction config ledger
      (.ofBody payer ⟨id', .scheduleCreate schedule⟩ size') now
    (0 < creations → wrapped = direct ∧ g.ChargedAs now .cryptoCreate creations direct ∧
      transfer.usesAliases = true) ∧
    (creations = 0 → g.ChargedAs now .scheduleCreate 1 wrapped) := by
  intro creations direct wrapped
  have route : Route.ofTransaction config ledger
      (.ofBody payer ⟨id', .scheduleCreate schedule⟩ size') = _ :=
    ofTransaction_schedule rfl shortTerm scheduled
  constructor
  · intro creates
    rw [if_pos creates] at route
    have transferred : direct = _ := decideTransaction_eq_decideDemand active charged rfl standard
      transfers (ofTransaction_transfer rfl creates)
    have carried : wrapped = _ :=
      decideTransaction_eq_decideDemand active charged rfl standard schedules route
    refine ⟨carried.trans transferred.symm, ?_, usesAliases_of_transferCreations_pos creates⟩
    rw [transferred]
    exact decideDemand_chargedAs reached config ledger now .cryptoCreate creates
  · intro nothing
    rw [if_neg (Nat.not_lt.mpr (Nat.le_of_eq nothing))] at route
    have carried : wrapped = _ :=
      decideTransaction_eq_decideDemand active charged rfl standard schedules route
    rw [carried]
    exact decideDemand_chargedAs reached config ledger now .scheduleCreate Nat.one_pos

/-- A credit of currency and a serial number go to two aliases that name no account. The schedule of
that transfer is charged two creations, and the schedule of a debit one of its own kind. -/
theorem schedule_charged_like_transfer_twoAliases :
    let bucket : BucketDefinition :=
      ⟨"all", 1, 0, [⟨10, 0, [.cryptoTransfer, .scheduleCreate]⟩, ⟨5, 0, [.cryptoCreate]⟩]⟩
    let g := (Gate.new .consensus).run [.rebuild ⟨[bucket]⟩]
    let seed (octet : UInt8) : AccountId := .ofAlias (List.replicate 20 octet)
    let gift : Transfer := ⟨[⟨.ofNumber 5000, -5⟩, ⟨seed 0xab, 5⟩],
      [⟨.ofNumber 700, [], [⟨.ofNumber 5000, some (seed 0xcd), 1⟩]⟩]⟩
    let debit : Transfer := ⟨[⟨seed 0xab, -5⟩], []⟩
    let wrap (transfer : Transfer) : ScheduleCreate :=
      ⟨some (.cryptoTransfer transfer), false, none⟩
    let made (data : TransactionData) := g.decideTransaction {} Ledger.empty.view
      (.ofBody (.ofNumber 5000) ⟨none, data⟩ 200) ⟨100, 0⟩
    g.Reached (fun _ => True) ∧
      made (.scheduleCreate (wrap gift)) = made (.cryptoTransfer gift) ∧
      (made (.cryptoTransfer gift)).result = ⟨.allowed, [⟨.operations 0, 12000, 1⟩]⟩ ∧
      g.ChargedAs ⟨100, 0⟩ .cryptoCreate 2 (made (.cryptoTransfer gift)) ∧
      g.ChargedAs ⟨100, 0⟩ .scheduleCreate 1 (made (.scheduleCreate (wrap debit))) ∧
      (made (.scheduleCreate (wrap debit))).result = ⟨.allowed, [⟨.operations 0, 3000, 1⟩]⟩ := by
  intro bucket g seed gift debit wrap made
  have reached : g.Reached fun _ => True := ⟨.consensus, _, fun _ _ => trivial, rfl⟩
  have active : g.stage ≠ .passthrough := by decide +kernel
  have transfers : (g.operations.tariff? .cryptoTransfer).isSome = true := by decide +kernel
  have schedules : (g.operations.tariff? .scheduleCreate).isSome = true := by decide +kernel
  have payer : Config.isExempt {} (.ofNumber 5000) = false := by decide
  have charged (transfer : Transfer) :=
    schedule_charged_like_transfer reached active rfl rfl transfers schedules payer
      Ledger.empty.view ⟨100, 0⟩
      (rfl : (wrap transfer).scheduled = some (.cryptoTransfer transfer)) none none 200 200
  obtain ⟨same, creations, -⟩ := (charged gift).1 (by decide +kernel)
  have own := (charged debit).2 (by decide +kernel)
  exact ⟨reached, same, by decide +kernel, creations, own, by decide +kernel⟩

end Throttling
