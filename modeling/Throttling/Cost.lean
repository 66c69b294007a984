import Throttling.Ledger
import Throttling.Transaction

/-!
# Derived costs

What a transaction brings about besides itself, computed from its body and the
ledger: accounts created implicitly, tokens associated automatically, gas
reserved, and the second in which a schedule expires. Nothing here touches a
throttle.
-/

set_option autoImplicit false

namespace Throttling

inductive ImplicitCreations where
  | known (count : Nat)
  /-- The payload cannot be decoded, so the transaction must be denied. -/
  | unknown
  deriving DecidableEq, Repr

def ImplicitCreations.count? : ImplicitCreations → Option Nat
  | known count => some count
  | unknown => none

structure CostContext where
  ledger : LedgerView
  shard : Nat
  realm : Nat

namespace CostContext

/-- Whether an account is referred to by an alias that names no account yet. -/
def isUnusedAlias (c : CostContext) (account : AccountId) : Bool :=
  match account.alias? with
  | none => false
  | some bytes =>
    !Alias.isEntityNumber bytes c.shard c.realm &&
      !c.ledger.containsAlias account.shard account.realm bytes

/-- Whether a change of balance, or the receipt of a serial number, creates the account. -/
def createsAccount (c : CostContext) (account : AccountId) (change : Int) : Bool :=
  c.isUnusedAlias account &&
    (decide (0 < change) && (account.alias?.map Alias.canSeedAccount).getD false)

def creationsByAmounts (c : CostContext) (adjustments : List AccountAmount) : Nat :=
  adjustments.countP fun a => c.createsAccount a.account a.amount

def creationsByNfts (c : CostContext) (changes : List NftTransfer) : Nat :=
  changes.countP fun n => n.receiver.any fun receiver => c.createsAccount receiver n.serial

/-- Accounts created by a transfer, every leg on its own. -/
def transferCreations (c : CostContext) (t : Transfer) : Nat :=
  c.creationsByAmounts t.transfers +
    (t.tokenTransfers.map fun list =>
      c.creationsByAmounts list.transfers + c.creationsByNfts list.nftTransfers).foldr (· + ·) 0

/-- Accounts created by an Ethereum transaction: one if value goes to no existing alias. -/
def ethereumCreations (c : CostContext) (fields : Ethereum.Fields) : Nat :=
  if !fields.transfersValue then 0
  else
    match fields.recipient with
    | none => 1
    | some address => if c.ledger.containsAlias c.shard c.realm address then 0 else 1

def implicitCreations (c : CostContext) (body : TransactionBody) : ImplicitCreations :=
  match body.data with
  | .ethereum payload =>
    match Ethereum.decode payload with
    | .ok fields => .known (c.ethereumCreations fields)
    | .error _ => .unknown
  | .cryptoTransfer transfer => .known (c.transferCreations transfer)
  | _ => .known 0

/-- Associations that the transfer of one token creates: credited accounts and receivers that have
no relation with it yet. -/
def tokenAssociations (c : CostContext) (list : TokenTransfers) : Nat :=
  (list.transfers.countP fun a =>
    decide (0 < a.amount) && !c.ledger.hasRelation a.account list.token) +
  list.nftTransfers.countP fun n =>
    n.receiver.any fun receiver => !c.ledger.hasRelation receiver list.token

def autoAssociations (c : CostContext) (body : TransactionBody) : Nat :=
  match body.transfer? with
  | none => 0
  | some transfer => (transfer.tokenTransfers.map c.tokenAssociations).foldr (· + ·) 0

end CostContext

/-- The gas that a limit reserves. A negative limit counts as unbounded. -/
def gasOfLimit (limit : Int) : Nat :=
  if limit < 0 then Word.maxSigned64 else min limit.toNat Word.maxSigned64

/-- The gas that a transaction reserves when it is metered as a functionality. A payload that cannot
be decoded reserves nothing, and neither does a body of another functionality. -/
def TransactionData.gasLimit (data : TransactionData) (function : Functionality) : Nat :=
  match data, function with
  | .contractCreate gas, .contractCreate => gasOfLimit gas
  | .contractCall gas, .contractCall => gasOfLimit gas
  | .ethereum payload, .ethereumTransaction =>
    match Ethereum.decode payload with
    | .ok fields => min fields.gasLimit Word.maxSigned64
    | .error _ => 0
  | _, _ => 0

def ScheduleCreate.expirySecond (s : ScheduleCreate) (validStart : Timestamp) (lifetime : Int) :
    Int :=
  if s.waitForExpiry then (s.expiration.getD .epoch).seconds
  else Word.saturateSigned64 (validStart.seconds + lifetime)

end Throttling
