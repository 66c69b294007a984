import Throttling.Config
import Throttling.Cost

/-!
# Routing

Which functionality a transaction is charged as, and for how many units. Most
transactions are charged one unit of their own functionality. A transfer or an
Ethereum transaction that creates accounts is charged for the creations instead,
a transfer that associates tokens for the associations if that is configured,
and a mint for the serial numbers it mints, scaled. The creation of a schedule
is charged as such, except that in short-term scheduling a scheduled transfer
that creates accounts is charged for the creations at once.

Routing looks at the transaction, the configuration and the ledger only, never
at a throttle.
-/

set_option autoImplicit false

namespace Throttling

/-- What a transaction is charged for. -/
structure Demand where
  function : Functionality
  quantity : Nat
  scale : ScaleFactor
  /-- The second that a long-term schedule adds to, where a cap on schedules applies. -/
  expiry : Option Int
  deriving DecidableEq, Repr

inductive Route where
  | charge (demand : Demand)
  /-- The creation of a schedule that cannot be. -/
  | unschedulable (error : Error)
  /-- A payload whose effects are not known. -/
  | undecodable (error : Error)
  deriving DecidableEq, Repr

namespace Route

def single (function : Functionality) : Route := .charge ⟨function, 1, .one, none⟩

def units (function : Functionality) (quantity : Nat) : Route :=
  .charge ⟨function, quantity, .one, none⟩

/-- A mint: one unit, or the serial numbers at the configured scale. -/
def ofMint (config : Config) (body : TransactionBody) : Route :=
  let serials :=
    match body.data with
    | .tokenMint mint => mint.metadata.length
    | _ => 0
  if serials = 0 then single .tokenMint
  else .charge ⟨.tokenMint, serials, config.tokens.nftsMintThrottleScaleFactor, none⟩

/-- A transfer: its creations, else its associations where they are charged, else one unit. -/
def ofTransfer (config : Config) (costs : CostContext) (body : TransactionBody) : Route :=
  let creations := (costs.implicitCreations body).count?.getD 0
  let associations := costs.autoAssociations body
  if 0 < creations then units .cryptoCreate creations
  else if config.entities.unlimitedAutoAssociationsEnabled ∧ 0 < associations then
    units .tokenAssociateToAccount associations
  else single .cryptoTransfer

/-- An Ethereum transaction: its creations, else one unit. -/
def ofEthereum (costs : CostContext) (body : TransactionBody) : Route :=
  match costs.implicitCreations body with
  | .unknown => .undecodable (.undecodable .unknownCreations)
  | .known 0 => single .ethereumTransaction
  | .known creations => units .cryptoCreate creations

/-- The creation of a schedule for a transaction that can be scheduled. -/
def ofScheduled (config : Config) (costs : CostContext) (schedule : ScheduleCreate)
    (inner : TransactionBody) (validStart : Timestamp) : Route :=
  if config.scheduling.longTermEnabled then
    .charge ⟨.scheduleCreate, 1, .one,
      some (schedule.expirySecond validStart config.ledger.scheduleTxExpiryTimeSecs)⟩
  else
    match inner.transfer? with
    | none => single .scheduleCreate
    | some transfer =>
      if transfer.usesAliases ∧ 0 < costs.transferCreations transfer then
        units .cryptoCreate (costs.transferCreations transfer)
      else single .scheduleCreate

def ofSchedule (config : Config) (costs : CostContext) (payer : AccountId)
    (body : TransactionBody) : Route :=
  match body.data with
  | .scheduleCreate schedule =>
    match schedule.inner payer body.validStart with
    | .error e => .unschedulable e
    | .ok inner => ofScheduled config costs schedule inner body.validStart
  | _ => .unschedulable (.unschedulable .missingBody)

def ofTransaction (config : Config) (ledger : LedgerView) (txn : Transaction) : Route :=
  let costs : CostContext := ⟨ledger, config.ledger.shard, config.ledger.realm⟩
  match txn.function with
  | .scheduleCreate => ofSchedule config costs txn.payer txn.body
  | .tokenMint => ofMint config txn.body
  | .cryptoTransfer => ofTransfer config costs txn.body
  | .ethereumTransaction => ofEthereum costs txn.body
  | function => single function

end Route

end Throttling
