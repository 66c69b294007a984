import Throttling.Proofs.Creations
import Throttling.Proofs.Gate.Tariffs

/-!
# Which transactions are admitted

A transaction decision draws and takes back in sequence, from gas, from payload bytes and from
several throttles of operations. What it comes to is a plain condition on the gate before the call,
which nothing is drawn for: `Gate.Admits` says what each resource must have room for, by the kind of
the transaction, and `decideTransaction_allowed_iff` that exactly these transactions and those of
exempt payers are admitted.
-/

set_option autoImplicit false

namespace Throttling

/-! ## The reference -/

/-- The throttle is configured, has capacity, and has an amount free at `now`. -/
def Throttle.Provides (throttle : Option Throttle) (now : Timestamp) (amount : Nat) : Prop :=
  ∃ t, throttle = some t ∧ t.capacity ≠ 0 ∧ amount ≤ t.free now

def CostContext.scheduledCreations (c : CostContext) : TransactionData → Nat
  | .cryptoTransfer transfer => c.transferCreations transfer
  | _ => 0

/-- The throttles of operations have room for what a transaction is charged as. A payload that
cannot be decoded, and a schedule of nothing, of a query or of a schedule, is not charged as
anything. -/
def ThrottleSet.Covers (s : ThrottleSet) (config : Config) (costs : CostContext) (now : Timestamp) :
    TransactionData → Prop
  | .cryptoTransfer transfer =>
    let creations := costs.transferCreations transfer
    let associations := (transfer.tokenTransfers.map costs.tokenAssociations).sum
    if 0 < creations then s.HasRoom .cryptoCreate now creations .one
    else if config.entities.unlimitedAutoAssociationsEnabled = true ∧ 0 < associations then
      s.HasRoom .tokenAssociateToAccount now associations .one
    else s.HasRoom .cryptoTransfer now 1 .one
  | .ethereum payload =>
    ∃ fields, Ethereum.decode payload = .ok fields ∧
      if 0 < costs.ethereumCreations fields then
        s.HasRoom .cryptoCreate now (costs.ethereumCreations fields) .one
      else s.HasRoom .ethereumTransaction now 1 .one
  | .tokenMint mint =>
    if mint.metadata = [] then s.HasRoom .tokenMint now 1 .one
    else
      s.HasRoom .tokenMint now mint.metadata.length
        config.tokens.nftsMintThrottleScaleFactor
  | .scheduleCreate schedule =>
    ∃ inner, schedule.scheduled = some inner ∧ inner.function ≠ .scheduleCreate ∧
      inner.function.isQuery = false ∧
        if config.scheduling.longTermEnabled = true then
          s.HasRoom .scheduleCreate now 1 .one
        else if 0 < costs.scheduledCreations inner then
          s.HasRoom .cryptoCreate now (costs.scheduledCreations inner) .one
        else s.HasRoom .scheduleCreate now 1 .one
  | .contractCreate _ => s.HasRoom .contractCreate now 1 .one
  | .contractCall _ => s.HasRoom .contractCall now 1 .one
  | .other function =>
    function ≠ .scheduleCreate ∧ s.HasRoom function now 1 .one

/-- At ingest, a long-term schedule does not expire in a second that is full. -/
def Gate.SchedulesOpen (g : Gate) (config : Config) (ledger : LedgerView) (body : TransactionBody) :
    Prop :=
  g.stage = .ingest → config.scheduling.longTermEnabled = true →
    ∀ schedule, body.data = .scheduleCreate schedule →
      ledger.schedulesExpiringAt
          (schedule.expirySecond body.validStart config.ledger.scheduleTxExpiryTimeSecs) <
        config.scheduling.maxTxnPerSec

/-- What must hold of a gate before a transaction that is not exempt is decided, for it to be
admitted. -/
structure Gate.Admits (g : Gate) (config : Config) (ledger : LedgerView) (body : TransactionBody)
    (size : Nat) (now : Timestamp) : Prop where
  gas : config.contracts.throttleByGas = true → body.data.function.gasMetered = true →
    Throttle.Provides g.gas now (body.data.gasLimit body.data.function)
  bytes : config.jumbo.enabled = true →
    body.data.function ∈ config.jumbo.allowedFunctionalities →
      config.ledger.transactionMaxBytes < size →
        Throttle.Provides g.bytes now (size - config.ledger.transactionMaxBytes)
  tariff : (g.operations.tariff? body.data.function).isSome = true
  operations :
    g.operations.Covers config ⟨ledger, config.ledger.shard, config.ledger.realm⟩ now body.data
  schedules : g.SchedulesOpen config ledger body

/-! ## Single charges -/

variable {g : Gate} {now : Timestamp}

theorem Throttle.draw?_isSome_iff {t : Throttle} (w : t.bucket.WellFormed) (amount : Nat) :
    (t.draw? now amount).isSome = true ↔ t.HasRoom now amount := by
  rw [draw?_eq w]
  unfold HasRoom
  split <;> simp_all

theorem Throttle.Sound.units_eq {kind : ResourceKind} {t : Throttle} (sound : t.Sound kind)
    (other : kind ≠ .operations) {amount : Nat} (inRange : amount ≤ Word.max64) :
    t.units amount = amount := by
  rw [Throttle.units, sound.unitsPerAmount other, Nat.mul_one, Word.saturate64_of_le inRange]

theorem gasLimit_le (data : TransactionData) (function : Functionality) :
    data.gasLimit function ≤ Word.max64 := by
  have signed : Word.maxSigned64 ≤ Word.max64 := by decide
  have ofLimit (limit : Int) : gasOfLimit limit ≤ Word.max64 := by
    unfold gasOfLimit
    split
    · exact signed
    · exact Nat.le_trans (Nat.min_le_right _ _) signed
  unfold TransactionData.gasLimit
  split
  · exact ofLimit _
  · exact ofLimit _
  · split
    · exact Nat.le_trans (Nat.min_le_right _ _) signed
    · exact Nat.zero_le _
  · exact Nat.zero_le _

theorem andThen_allowed_iff {a : Attempt} {next : Gate → Attempt} :
    (a.andThen next).verdict = .allowed ↔
      a.verdict = .allowed ∧ (next a.gate).verdict = .allowed := by
  unfold Attempt.andThen
  split
  · rename_i allowed
    exact (and_iff_right allowed).symm
  · rename_i refused
    exact iff_of_false refused fun both => refused both.1

/-- A throttle that does not meter operations provides exactly the amounts that can be drawn. -/
theorem provides_iff {kind : ResourceKind} {throttle : Option Throttle}
    (sound : ∀ t ∈ throttle, t.Sound kind) (other : kind ≠ .operations) {amount : Nat}
    (inRange : amount ≤ Word.max64) :
    Throttle.Provides throttle now amount ↔
      ∃ t, throttle = some t ∧ (t.draw? now amount).isSome = true := by
  refine exists_congr fun t => and_congr_right fun configured => ?_
  have own := sound t configured
  rw [Throttle.draw?_isSome_iff own.wellFormed, Throttle.HasRoom, own.units_eq other inRange]

theorem chargeGas_allowed_iff (sound : ∀ t ∈ g.gas, t.Sound .gas) (config : Config)
    (txn : Transaction) :
    (g.chargeGas config txn now).verdict = .allowed ↔
      (config.contracts.throttleByGas = true → txn.function.gasMetered = true →
        Throttle.Provides g.gas now (txn.body.data.gasLimit txn.function)) := by
  rw [provides_iff sound (by decide) (gasLimit_le _ _), ← and_imp, ← Bool.and_eq_true]
  unfold Gate.chargeGas
  dsimp only
  split
  · rename_i metered
    rw [forall_prop_of_true metered]
    cases g.gas with
    | none => simp [Attempt.unconfigured]
    | some t =>
      dsimp only
      cases drawn : t.draw? now (txn.body.data.gasLimit txn.function) <;>
        simp [drawn, Attempt.refuse]
  · rename_i unmetered
    exact iff_of_true rfl fun metered => absurd metered unmetered

theorem chargeBytes_allowed_iff (sound : ∀ t ∈ g.bytes, t.Sound .bytes) (config : Config)
    {txn : Transaction} (inRange : txn.size ≤ Word.max64) :
    (g.chargeBytes config txn now).verdict = .allowed ↔
      (config.jumbo.enabled = true → txn.function ∈ config.jumbo.allowedFunctionalities →
        config.ledger.transactionMaxBytes < txn.size →
          Throttle.Provides g.bytes now (txn.size - config.ledger.transactionMaxBytes)) := by
  have excess : txn.size - config.ledger.transactionMaxBytes ≤ Word.max64 :=
    Nat.le_trans (Nat.sub_le _ _) inRange
  rw [provides_iff sound (by decide) excess]
  unfold Gate.chargeBytes
  dsimp only
  by_cases large : config.jumbo.enabled = true ∧
      txn.function ∈ config.jumbo.allowedFunctionalities ∧
      config.ledger.transactionMaxBytes < txn.size
  · obtain ⟨enabled, listed, excessive⟩ := large
    have charged : Gate.excessBytes config txn =
        txn.size - config.ledger.transactionMaxBytes := by
      simp [Gate.excessBytes, enabled, listed]
    rw [charged, if_pos (Nat.sub_pos_of_lt excessive), forall_prop_of_true enabled,
      forall_prop_of_true listed, forall_prop_of_true excessive]
    cases g.bytes with
    | none => simp [Attempt.unconfigured]
    | some t =>
      dsimp only
      cases drawn : t.draw? now (txn.size - config.ledger.transactionMaxBytes) <;>
        simp [drawn, Attempt.refuse]
  · have free : Gate.excessBytes config txn = 0 := by
      unfold Gate.excessBytes
      split
      · rename_i allowed
        rw [Bool.and_eq_true, List.contains_iff_mem] at allowed
        exact Nat.sub_eq_zero_of_le
          (Nat.le_of_not_lt fun excessive => large ⟨allowed.1, allowed.2, excessive⟩)
      · rfl
    rw [free, if_neg (Nat.lt_irrefl 0)]
    exact iff_of_true rfl fun enabled listed excessive => absurd ⟨enabled, listed, excessive⟩ large

/-! ## Operations -/

theorem drawOperations_granted_iff (w : g.WellFormed) (ordered : g.operations.Ordered)
    (function : Functionality) (quantity : Nat) (scale : ScaleFactor) :
    (g.drawOperations function now quantity scale).1 = true ↔
      g.operations.HasRoom function now quantity scale := by
  rw [← ThrottleSet.draw?_granted_iff ordered w.operations]
  unfold Gate.drawOperations
  cases g.operations.draw? function now quantity scale with
  | none => simp
  | some draw => simp

private theorem drawOperations_stage (g : Gate) (function : Functionality) (now : Timestamp)
    (quantity : Nat) (scale : ScaleFactor) :
    (g.drawOperations function now quantity scale).2.1.stage = g.stage := by
  unfold Gate.drawOperations
  split <;> rfl

theorem chargeDemand_allowed_iff (w : g.WellFormed) (ordered : g.operations.Ordered)
    (config : Config) (ledger : LedgerView) (demand : Demand) :
    (g.chargeDemand config ledger now demand).verdict = .allowed ↔
      g.operations.HasRoom demand.function now demand.quantity demand.scale ∧
        g.expiryFull config ledger demand.expiry = false := by
  have stage := drawOperations_stage g demand.function now demand.quantity demand.scale
  rw [← drawOperations_granted_iff w ordered]
  unfold Gate.chargeDemand
  split
  · rename_i refused
    simp [refused, Attempt.refuse]
  · rename_i h usages granted
    rw [granted] at stage ⊢
    have full : h.expiryFull config ledger demand.expiry =
        g.expiryFull config ledger demand.expiry := by
      unfold Gate.expiryFull
      rw [stage]
    rw [full]
    split
    · rename_i full
      simp [full, Attempt.refuse]
    · rename_i room
      simp [room]

/-- A route whose demand is covered, and whose schedule does not expire in a full second. -/
def Gate.Accepts (g : Gate) (config : Config) (ledger : LedgerView) (now : Timestamp) :
    Route → Prop
  | .charge demand =>
    g.operations.HasRoom demand.function now demand.quantity demand.scale ∧
      g.expiryFull config ledger demand.expiry = false
  | .unschedulable _ | .undecodable _ => False

theorem chargeOperations_allowed_iff (w : g.WellFormed) (ordered : g.operations.Ordered)
    (config : Config) (ledger : LedgerView) (txn : Transaction) :
    (g.chargeOperations config ledger txn now).verdict = .allowed ↔
      (g.operations.tariff? txn.function).isSome = true ∧
        g.Accepts config ledger now (Route.ofTransaction config ledger txn) := by
  unfold Gate.chargeOperations
  split
  · rename_i missing
    simp [Option.isNone_iff_eq_none.mp missing, Attempt.refuse]
  · rename_i present
    have present : (g.operations.tariff? txn.function).isSome = true := by
      simpa [Option.isSome_iff_ne_none] using present
    rw [and_iff_right present]
    split
    · rename_i demand route
      rw [chargeDemand_allowed_iff w ordered, route]
      rfl
    · rename_i error route
      simp [route, Gate.Accepts]
    · rename_i error route
      simp [route, Gate.Accepts, Attempt.refuse]

variable {config : Config} {ledger : LedgerView} {costs : CostContext}

/-- No cap on schedules applies to a demand without an expiry. -/
private theorem accepts_unscheduled (function : Functionality) (quantity : Nat)
    (scale : ScaleFactor) :
    g.Accepts config ledger now (.charge ⟨function, quantity, scale, none⟩) ↔
      g.operations.HasRoom function now quantity scale := by
  have uncapped : g.expiryFull config ledger none = false := by
    unfold Gate.expiryFull
    cases g.stage <;> rfl
  simp only [Gate.Accepts, uncapped, and_true]

private theorem accepts_units (function : Functionality) (quantity : Nat) :
    g.Accepts config ledger now (.units function quantity) ↔
      g.operations.HasRoom function now quantity .one :=
  accepts_unscheduled function quantity .one

private theorem accepts_transfer (id : Option TransactionId) (transfer : Transfer) :
    g.Accepts config ledger now (.ofTransfer config costs ⟨id, .cryptoTransfer transfer⟩) ↔
      g.operations.Covers config costs now (.cryptoTransfer transfer) := by
  have route : Route.ofTransfer config costs ⟨id, .cryptoTransfer transfer⟩ =
      if 0 < costs.transferCreations transfer then
        .units .cryptoCreate (costs.transferCreations transfer)
      else if config.entities.unlimitedAutoAssociationsEnabled = true ∧
          0 < (transfer.tokenTransfers.map costs.tokenAssociations).sum then
        .units .tokenAssociateToAccount (transfer.tokenTransfers.map costs.tokenAssociations).sum
      else .single .cryptoTransfer := rfl
  rw [route]
  unfold ThrottleSet.Covers
  dsimp only
  by_cases creates : 0 < costs.transferCreations transfer
  · rw [if_pos creates, if_pos creates]
    exact accepts_units _ _
  rw [if_neg creates, if_neg creates]
  by_cases associates : config.entities.unlimitedAutoAssociationsEnabled = true ∧
      0 < (transfer.tokenTransfers.map costs.tokenAssociations).sum
  · rw [if_pos associates, if_pos associates]
    exact accepts_units _ _
  · rw [if_neg associates, if_neg associates]
    exact accepts_units _ _

private theorem accepts_ethereum (id : Option TransactionId) (payload : List UInt8) :
    g.Accepts config ledger now (.ofEthereum costs ⟨id, .ethereum payload⟩) ↔
      g.operations.Covers config costs now (.ethereum payload) := by
  simp only [Route.ofEthereum, ThrottleSet.Covers, CostContext.implicitCreations]
  cases Ethereum.decode payload with
  | error e => simp [Gate.Accepts]
  | ok fields =>
    simp only [Except.ok.injEq, exists_eq_left']
    cases costs.ethereumCreations fields with
    | zero => exact accepts_units _ _
    | succ n => exact accepts_units _ _

private theorem accepts_mint (id : Option TransactionId) (mint : TokenMint) :
    g.Accepts config ledger now (.ofMint config ⟨id, .tokenMint mint⟩) ↔
      g.operations.Covers config costs now (.tokenMint mint) := by
  simp only [Route.ofMint, ThrottleSet.Covers, List.length_eq_zero_iff]
  split
  · exact accepts_units _ _
  · exact accepts_unscheduled _ _ _

private theorem schedulesOpen_iff (longTerm : config.scheduling.longTermEnabled = true)
    {body : TransactionBody} {schedule : ScheduleCreate}
    (creates : body.data = .scheduleCreate schedule) :
    g.SchedulesOpen config ledger body ↔
      g.expiryFull config ledger
          (some
            (schedule.expirySecond body.validStart config.ledger.scheduleTxExpiryTimeSecs)) =
        false := by
  unfold Gate.SchedulesOpen Gate.expiryFull
  cases g.stage <;> simp [longTerm, creates]

private theorem accepts_shortTerm (shortTerm : ¬ config.scheduling.longTermEnabled = true)
    (schedule : ScheduleCreate) (id : Option TransactionId) (data : TransactionData)
    (validStart : Timestamp) :
    g.Accepts config ledger now (.ofScheduled config costs schedule ⟨id, data⟩ validStart) ↔
      if 0 < costs.scheduledCreations data then
        g.operations.HasRoom .cryptoCreate now (costs.scheduledCreations data) .one
      else g.operations.HasRoom .scheduleCreate now 1 .one := by
  unfold Route.ofScheduled
  rw [if_neg shortTerm]
  cases data with
  | cryptoTransfer transfer =>
    have scheduled : costs.scheduledCreations (.cryptoTransfer transfer) =
        costs.transferCreations transfer := rfl
    rw [scheduled]
    dsimp only [TransactionBody.transfer?]
    by_cases creates : 0 < costs.transferCreations transfer
    · rw [if_pos ⟨usesAliases_of_transferCreations_pos creates, creates⟩, if_pos creates]
      exact accepts_units _ _
    · rw [if_neg fun both => creates both.2, if_neg creates]
      exact accepts_units _ _
  | contractCreate | contractCall | ethereum | tokenMint | scheduleCreate | other =>
    exact accepts_units _ _

private theorem accepts_schedule (payer : AccountId) (txnId : Option TransactionId)
    (schedule : ScheduleCreate) :
    g.Accepts config ledger now
        (.ofSchedule config costs payer ⟨txnId, .scheduleCreate schedule⟩) ↔
      g.operations.Covers config costs now (.scheduleCreate schedule) ∧
        g.SchedulesOpen config ledger ⟨txnId, .scheduleCreate schedule⟩ := by
  simp only [Route.ofSchedule, ScheduleCreate.inner, ThrottleSet.Covers]
  cases scheduled : schedule.scheduled with
  | none => simp [Gate.Accepts]
  | some data =>
    simp only [Option.some.injEq, exists_eq_left']
    by_cases unfit : data.function = .scheduleCreate ∨ data.function.isQuery = true
    · rw [if_pos unfit]
      refine iff_of_false (fun accepted => accepted) fun covered => ?_
      rcases unfit with schedules | queries
      · exact covered.1.1 schedules
      · exact Bool.false_ne_true (covered.1.2.1.symm.trans queries)
    rw [if_neg unfit]
    obtain ⟨plain, submitted⟩ := not_or.mp unfit
    rw [Bool.not_eq_true] at submitted
    rw [and_iff_right plain, and_iff_right submitted]
    by_cases longTerm : config.scheduling.longTermEnabled = true
    · rw [schedulesOpen_iff longTerm rfl, if_pos longTerm]
      simp only [Route.ofScheduled, if_pos longTerm]
      rfl
    · have uncapped : g.SchedulesOpen config ledger ⟨txnId, .scheduleCreate schedule⟩ :=
        fun _ enabled => absurd enabled longTerm
      rw [if_neg longTerm, and_iff_left uncapped]
      exact accepts_shortTerm longTerm schedule _ data _

/-- A route is accepted exactly if what the transaction is charged as is covered and the second in
which a schedule expires is open. -/
theorem accepts_iff (payer : AccountId) (body : TransactionBody) (size : Nat) :
    g.Accepts config ledger now (Route.ofTransaction config ledger (.ofBody payer body size)) ↔
      g.operations.Covers config ⟨ledger, config.ledger.shard, config.ledger.realm⟩ now body.data ∧
        g.SchedulesOpen config ledger body := by
  obtain ⟨id, data⟩ := body
  have unscheduled {data : TransactionData} (other : ∀ schedule, data ≠ .scheduleCreate schedule) :
      g.SchedulesOpen config ledger ⟨id, data⟩ :=
    fun _ _ schedule same => absurd same (other schedule)
  cases data with
  | cryptoTransfer transfer =>
    rw [and_iff_left (unscheduled fun _ same => by cases same)]
    exact accepts_transfer id transfer
  | contractCreate gas =>
    rw [and_iff_left (unscheduled fun _ same => by cases same)]
    exact accepts_units _ _
  | contractCall gas =>
    rw [and_iff_left (unscheduled fun _ same => by cases same)]
    exact accepts_units _ _
  | ethereum payload =>
    rw [and_iff_left (unscheduled fun _ same => by cases same)]
    exact accepts_ethereum id payload
  | tokenMint mint =>
    rw [and_iff_left (unscheduled fun _ same => by cases same)]
    exact accepts_mint id mint
  | scheduleCreate schedule => exact accepts_schedule payer id schedule
  | other function =>
    rw [and_iff_left (unscheduled fun _ same => by cases same)]
    simp only [Route.ofTransaction, Transaction.ofBody, TransactionData.function,
      ThrottleSet.Covers]
    split
    · simp [Route.ofSchedule, Gate.Accepts]
    · rw [and_iff_right (by decide)]
      exact accepts_units _ _
    · rw [and_iff_right (by decide)]
      have plain : Route.ofTransfer config ⟨ledger, config.ledger.shard, config.ledger.realm⟩
          ⟨id, .other .cryptoTransfer⟩ = .single .cryptoTransfer := by
        simp [Route.ofTransfer, CostContext.implicitCreations, ImplicitCreations.count?,
          CostContext.autoAssociations, TransactionBody.transfer?]
      rw [plain]
      exact accepts_units _ _
    · rw [and_iff_right (by decide)]
      exact accepts_units _ _
    · rename_i notSchedule _ _ _
      rw [and_iff_right notSchedule]
      exact accepts_units _ _

/-! ## Whole decisions -/

/-- Charges for gas leave the throttles of bytes and of operations alone. -/
private theorem chargeGas_frame (g : Gate) (config : Config) (txn : Transaction)
    (now : Timestamp) :
    (g.chargeGas config txn now).gate.stage = g.stage ∧
      (g.chargeGas config txn now).gate.bytes = g.bytes ∧
      (g.chargeGas config txn now).gate.operations = g.operations := by
  unfold Gate.chargeGas
  dsimp only
  split
  · split
    · exact ⟨rfl, rfl, rfl⟩
    · split <;> exact ⟨rfl, rfl, rfl⟩
  · exact ⟨rfl, rfl, rfl⟩

/-- Charges for bytes leave the throttles of operations alone. -/
private theorem chargeBytes_frame (g : Gate) (config : Config) (txn : Transaction)
    (now : Timestamp) :
    (g.chargeBytes config txn now).gate.stage = g.stage ∧
      (g.chargeBytes config txn now).gate.operations = g.operations := by
  unfold Gate.chargeBytes
  dsimp only
  split
  · split
    · exact ⟨rfl, rfl⟩
    · split <;> exact ⟨rfl, rfl⟩
  · exact ⟨rfl, rfl⟩

theorem provides_map_commit {throttle : Option Throttle} {amount : Nat} :
    Throttle.Provides (throttle.map Throttle.commit) now amount ↔
      Throttle.Provides throttle now amount := by
  unfold Throttle.Provides
  cases throttle with
  | none => rfl
  | some t =>
    simp only [Option.map_some, Option.some.injEq, exists_eq_left']
    rfl

theorem hasRoom_commit (s : ThrottleSet) :
    s.commit.HasRoom = s.HasRoom := by
  funext function now quantity scale
  refine propext (exists_congr fun tariff => and_congr_right fun _ => ?_)
  refine forall₂_congr fun r _ => ?_
  simp only [ThrottleSet.commit, ThrottleSet.mapThrottles, List.getElem?_map]
  cases s.throttles[r.throttle]? with
  | none => simp
  | some t =>
    simp only [Option.map_some, Option.some.injEq, exists_eq_left']
    rfl

theorem covers_commit {s : ThrottleSet} {data : TransactionData} :
    s.commit.Covers config costs now data ↔ s.Covers config costs now data := by
  unfold ThrottleSet.Covers
  rw [hasRoom_commit]

/-- Gas and bytes charged, the throttles of operations are still as before. -/
private theorem charged_frame (w : g.WellFormed) (config : Config) (txn : Transaction)
    (now : Timestamp) :
    let charged := (g.chargeGas config txn now).andThen fun g => g.chargeBytes config txn now
    charged.gate.WellFormed ∧ charged.gate.stage = g.stage ∧
      charged.gate.operations = g.operations := by
  have gas := chargeGas_frame g config txn now
  have drawn : (g.chargeGas config txn now).gate.WellFormed :=
    wellFormed_of_drawn (chargeGas_drawn w config txn)
  have bytes := chargeBytes_frame (g.chargeGas config txn now).gate config txn now
  have after : ((g.chargeGas config txn now).gate.chargeBytes config txn now).gate.WellFormed :=
    wellFormed_of_drawn (chargeBytes_drawn drawn config txn)
  dsimp only
  unfold Attempt.andThen
  split
  · exact ⟨after, bytes.1.trans gas.1, bytes.2.trans gas.2.2⟩
  · exact ⟨drawn, gas.1, gas.2.2⟩

/-- All charges pass exactly if the payer is exempt or what each of them needs is there. -/
theorem charge_allowed_iff (sound : g.Each Throttle.Sound) (ordered : g.operations.Ordered)
    (payer : AccountId) (body : TransactionBody) {size : Nat} (inRange : size ≤ Word.max64) :
    (g.charge config ledger (.ofBody payer body size) now).verdict = .allowed ↔
      config.isExempt payer = true ∨ g.Admits config ledger body size now := by
  have w : g.WellFormed := sound.wellFormed
  have payer_eq : (Transaction.ofBody payer body size).payer = payer := rfl
  unfold Gate.charge
  rw [payer_eq]
  by_cases exempt : config.isExempt payer = true
  · rw [if_pos exempt]
    exact iff_of_true rfl (Or.inl exempt)
  rw [if_neg exempt, or_iff_right exempt]
  obtain ⟨gasStage, gasBytes, gasOperations⟩ :=
    chargeGas_frame g config (.ofBody payer body size) now
  have bytesSound : ∀ t ∈ (g.chargeGas config (.ofBody payer body size) now).gate.bytes,
      t.Sound .bytes := by
    rw [gasBytes]
    exact sound.bytes
  have charged := charged_frame w config (.ofBody payer body size) now
  dsimp only at charged
  rw [andThen_allowed_iff]
  generalize ((g.chargeGas config (.ofBody payer body size) now).andThen fun g =>
    g.chargeBytes config (.ofBody payer body size) now).gate = k at charged ⊢
  obtain ⟨wellFormed, stage, operations⟩ := charged
  rw [andThen_allowed_iff, chargeGas_allowed_iff sound.gas,
    chargeBytes_allowed_iff bytesSound config inRange, gasBytes,
    chargeOperations_allowed_iff wellFormed (operations ▸ ordered), accepts_iff, operations]
  have schedules : k.SchedulesOpen config ledger body ↔ g.SchedulesOpen config ledger body := by
    unfold Gate.SchedulesOpen
    rw [stage]
  rw [schedules]
  constructor
  · rintro ⟨⟨gas, bytes⟩, tariff, covers, schedules⟩
    exact ⟨gas, bytes, tariff, covers, schedules⟩
  · rintro ⟨gas, bytes, tariff, covers, schedules⟩
    exact ⟨⟨gas, bytes⟩, tariff, covers, schedules⟩

/-- The commit that a decision starts with does not change what is admitted. -/
theorem admits_commit {body : TransactionBody} {size : Nat} :
    Gate.Admits { g.commit with deniedByGas := false } config ledger body size now ↔
      g.Admits config ledger body size now := by
  constructor
  · rintro ⟨gas, bytes, tariff, covers, schedules⟩
    exact
      { gas := fun on metered => provides_map_commit.mp (gas on metered)
        bytes := fun on listed excessive => provides_map_commit.mp (bytes on listed excessive)
        tariff
        operations := covers_commit.mp covers
        schedules }
  · rintro ⟨gas, bytes, tariff, covers, schedules⟩
    exact
      { gas := fun on metered => provides_map_commit.mpr (gas on metered)
        bytes := fun on listed excessive => provides_map_commit.mpr (bytes on listed excessive)
        tariff
        operations := covers_commit.mpr covers
        schedules }

/-- At ingest and at consensus, a transaction is admitted exactly if its payer is exempt or all that
it is charged for is free before the call. -/
theorem decideTransaction_allowed_iff {allowed : Call → Prop} (reached : g.Reached allowed)
    (active : g.stage ≠ .passthrough) (config : Config) (ledger : LedgerView) (payer : AccountId)
    (body : TransactionBody) {size : Nat} (inRange : size ≤ Word.max64) (now : Timestamp) :
    (g.decideTransaction config ledger (.ofBody payer body size) now).result.verdict = .allowed ↔
      config.isExempt payer = true ∨ g.Admits config ledger body size now := by
  have sound : Gate.Each Throttle.Sound { g.commit with deniedByGas := false } :=
    { reached.sound.commit fun _ _ own =>
        ⟨Bucket.commit_wellFormed own.wellFormed, own.unitsPerAmount⟩ with }
  rw [← admits_commit, ← charge_allowed_iff sound reached.ordered payer body inRange]
  unfold Gate.decideTransaction
  rw [if_neg active]
  dsimp only
  split
  · rename_i allowed
    exact iff_of_true rfl allowed
  · rename_i refused
    exact iff_of_false refused refused

/-- A contract call for which operations and gas are free, on a gate with both throttles. -/
theorem decideTransaction_allowed_contractCall :
    let bucket : BucketDefinition := ⟨"calls", 1, 0, [⟨10, 0, [.contractCall]⟩]⟩
    let g := (Gate.new .consensus).run [.rebuild ⟨[bucket]⟩, .applyGas {}]
    let body : TransactionBody := ⟨none, .contractCall 100⟩
    g.Reached (fun _ => True) ∧ g.stage ≠ .passthrough ∧ 200 ≤ Word.max64 ∧
      g.Admits {} Ledger.empty.view body 200 ⟨100, 0⟩ := by
  intro bucket g body
  have reached : g.Reached fun _ => True := ⟨.consensus, _, fun _ _ => trivial, rfl⟩
  have decided := decideTransaction_allowed_iff reached (by decide) {} Ledger.empty.view
    (.ofNumber 5000) body (by decide : 200 ≤ Word.max64) ⟨100, 0⟩
  have admitted := decided.mp (by decide +kernel)
  exact ⟨reached, by decide, by decide, admitted.resolve_left (by decide)⟩

end Throttling
