import Throttling.Gate.Basic
import Throttling.Gate.Routing

/-!
# Transaction decisions

A decision starts by committing what the previous one drew. Then the transaction
is charged in turn for gas, for payload bytes beyond the standard size, and for
operations; the first charge that is refused ends the decision. What was drawn
up to then is rolled back on every throttle, so a rejected transaction leaves no
trace. Exempt payers are not charged at all.
-/

set_option autoImplicit false

namespace Throttling

inductive Verdict where
  | allowed
  /-- Rejected for lack of capacity. -/
  | throttled
  /-- Rejected for lack of gas. -/
  | gasThrottled
  /-- Rejected because the transaction cannot be classified. -/
  | invalid (error : Error)
  deriving DecidableEq, Repr

namespace Verdict

def rejects (v : Verdict) : Bool := v != .allowed

/-- The error, when the rejection is due to malformed input and not to load. -/
def error? : Verdict → Option Error
  | invalid error => some error
  | _ => none

def isGasThrottled (v : Verdict) : Bool := v == .gasThrottled

end Verdict

/-- The state of a decision under way: the gate, what has been drawn, and the verdict so far. -/
structure Attempt where
  gate : Gate
  verdict : Verdict
  usages : List Usage
  events : List Event
  deriving Repr

namespace Attempt

/-- A charge that does not apply. -/
def pass (g : Gate) : Attempt := ⟨g, .allowed, [], []⟩

def refuse (g : Gate) (verdict : Verdict) : Attempt := ⟨g, verdict, [], []⟩

/-- A charge on a throttle that is not configured. -/
def unconfigured (g : Gate) (kind : ResourceKind) : Attempt :=
  ⟨g, .throttled, [], [.unconfigured (.notConfigured kind)]⟩

/-- Go on to the next charge, unless this one was refused. -/
def andThen (a : Attempt) (next : Gate → Attempt) : Attempt :=
  if a.verdict = .allowed then
    let b := next a.gate
    { b with usages := a.usages ++ b.usages, events := a.events ++ b.events }
  else a

end Attempt

/-- A decided transaction: the verdict, and what an admitted one drew. -/
structure Decision where
  verdict : Verdict
  usages : List Usage
  deriving DecidableEq, Repr

/-- What a caller has recorded of earlier decisions, with this one appended. -/
def Decision.appendTo (d : Decision) (recorded : List Usage) : List Usage := recorded ++ d.usages

namespace Gate

def usage (g : Gate) (throttle : ThrottleRef) (amount : Nat) : Usage :=
  ⟨throttle, amount, g.operations.generation⟩

def chargeGas (g : Gate) (config : Config) (txn : Transaction) (now : Timestamp) : Attempt :=
  if config.contracts.throttleByGas && txn.function.gasMetered then
    let amount := txn.body.data.gasLimit txn.function
    match g.gas with
    | none => .unconfigured g .gas
    | some throttle =>
      match throttle.draw? now amount with
      | none => .refuse { g with deniedByGas := true } .gasThrottled
      | some drawn => ⟨{ g with gas := some drawn }, .allowed, [g.usage .gas amount], []⟩
  else .pass g

/-- Octets of a transaction beyond the standard size, where it may be larger. -/
def excessBytes (config : Config) (txn : Transaction) : Nat :=
  if config.jumbo.enabled && config.jumbo.allowedFunctionalities.contains txn.function then
    txn.size - config.ledger.transactionMaxBytes
  else 0

def chargeBytes (g : Gate) (config : Config) (txn : Transaction) (now : Timestamp) : Attempt :=
  let excess := excessBytes config txn
  if 0 < excess then
    match g.bytes with
    | none => .unconfigured g .bytes
    | some throttle =>
      match throttle.draw? now excess with
      | none => .refuse g .throttled
      | some drawn => ⟨{ g with bytes := some drawn }, .allowed, [g.usage .bytes excess], []⟩
  else .pass g

/-- Draw a quantity of a functionality from the throttles of operations. Without a tariff the draw
is refused. -/
def drawOperations (g : Gate) (function : Functionality) (now : Timestamp) (quantity : Nat)
    (scale : ScaleFactor) : Bool × Gate × List Usage :=
  match g.operations.draw? function now quantity scale with
  | none => (false, g, [])
  | some draw => (draw.granted, { g with operations := draw.set }, draw.usages)

/-- Whether as many schedules expire in a second as may; asked at ingest only. -/
def expiryFull (g : Gate) (config : Config) (ledger : LedgerView) (expiry : Option Int) : Bool :=
  match g.stage, expiry with
  | .ingest, some second =>
    decide (config.scheduling.maxTxnPerSec ≤ ledger.schedulesExpiringAt second)
  | _, _ => false

/-- Charge a demand, then look at the cap on expiring schedules. -/
def chargeDemand (g : Gate) (config : Config) (ledger : LedgerView) (now : Timestamp)
    (demand : Demand) : Attempt :=
  match g.drawOperations demand.function now demand.quantity demand.scale with
  | (false, g, _) => .refuse g .throttled
  | (true, g, usages) =>
    if g.expiryFull config ledger demand.expiry then .refuse g .throttled
    else ⟨g, .allowed, usages, []⟩

/-- Charge the operations a transaction is routed to. Its own functionality must have a tariff,
whatever it is charged as. -/
def chargeOperations (g : Gate) (config : Config) (ledger : LedgerView) (txn : Transaction)
    (now : Timestamp) : Attempt :=
  if (g.operations.tariff? txn.function).isNone then .refuse g .throttled
  else
    match Route.ofTransaction config ledger txn with
    | .charge demand => g.chargeDemand config ledger now demand
    | .unschedulable error => ⟨g, .invalid error, [], [.unschedulable error]⟩
    | .undecodable error => .refuse g (.invalid error)

/-- All charges for a transaction; none for an exempt payer. -/
def charge (g : Gate) (config : Config) (ledger : LedgerView) (txn : Transaction)
    (now : Timestamp) : Attempt :=
  if config.isExempt txn.payer then .pass g
  else
    ((g.chargeGas config txn now).andThen fun g => g.chargeBytes config txn now).andThen
      fun g => g.chargeOperations config ledger txn now

def decideTransaction (g : Gate) (config : Config) (ledger : LedgerView) (txn : Transaction)
    (now : Timestamp) : Outcome Decision :=
  if g.stage = .passthrough then ⟨g, ⟨.allowed, []⟩, []⟩
  else
    let attempt := { g.commit with deniedByGas := false }.charge config ledger txn now
    if attempt.verdict = .allowed then
      ⟨attempt.gate, ⟨.allowed, attempt.usages⟩, attempt.events⟩
    else ⟨attempt.gate.rollback, ⟨attempt.verdict, []⟩, attempt.events⟩

end Gate

end Throttling
