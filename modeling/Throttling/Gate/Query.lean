import Throttling.Gate.Transaction

/-!
# Queries, operation duration and batches

The other decisions of a gate, each of which answers whether to throttle. A
gas-metered query draws from the gas throttle alone and commits at once; any
other query draws from the throttles of operations, and its draw stays
provisional until the next decision. Operation duration has a throttle that
commits on its own. A batch is a number of operations of one functionality that
bypasses routing, and its claim can be given back.
-/

set_option autoImplicit false

namespace Throttling.Gate

def unchanged {α : Type} (g : Gate) (result : α) : Outcome α := ⟨g, result, []⟩

def queryGas : Query → Nat
  | .contractCallLocal gas => gasOfLimit gas
  | _ => 0

def decideGasQuery (g : Gate) (query : Query) (now : Timestamp) : Outcome Bool :=
  match g.gas with
  | none => ⟨g, true, [.unconfigured (.notConfigured .gas)]⟩
  | some throttle =>
    match throttle.commit.draw? now (queryGas query) with
    | none => ⟨{ g with gas := some throttle.commit }, true, []⟩
    | some drawn => ⟨{ g with gas := some drawn.commit }, false, []⟩

/-- The units that a query is charged: one, or for a counted balance query the associations of the
account within their limits. -/
def queryUnits (config : Config) (ledger : LedgerView) (query : Query) : Nat :=
  if query.function = .cryptoGetAccountBalance ∧
      config.tokens.countingGetBalanceThrottleEnabled then
    let associations :=
      match query with
      | .accountBalance (some account) => (ledger.associations account).getD 0
      | _ => 0
    min (max associations 1) (max config.tokens.maxRelsPerInfoQuery 1)
  else 1

/-- Decide a number of operations of a functionality: a draw that is denied is rolled back, and a
functionality without a tariff is throttled. -/
def decideOperations (g : Gate) (function : Functionality) (now : Timestamp) (quantity : Nat) :
    Outcome Bool :=
  let g := g.commit
  match g.operations.draw? function now quantity .one with
  | none => ⟨g, true, []⟩
  | some draw =>
    let drawn := { g with operations := draw.set }
    if draw.granted then ⟨drawn, false, []⟩ else ⟨drawn.rollback, true, []⟩

def decideQuery (g : Gate) (config : Config) (ledger : LedgerView) (query : Query)
    (payer : Option AccountId) (now : Timestamp) : Outcome Bool :=
  if g.stage = .passthrough then g.unchanged false
  else if payer.any config.isExempt then g.unchanged false
  else if query.function.gasMetered then
    if config.contracts.throttleByGas then g.decideGasQuery query now else g.unchanged false
  else g.decideOperations query.function now (queryUnits config ledger query)

/-- Decide whether a contract execution of some duration must be stopped. -/
def decideOpsDuration (g : Gate) (config : Config) (duration : Nat) (now : Timestamp) :
    Outcome Bool :=
  let enabled := config.contracts.throttleByOpsDuration
  if g.stage = .passthrough then g.unchanged false
  else
    match g.opsDuration with
    | none =>
      ⟨g, enabled, if enabled then [.unconfigured (.notConfigured .opsDuration)] else []⟩
    | some throttle =>
      let throttle := throttle.commit
      if enabled then
        match throttle.draw? now duration with
        | none => ⟨{ g with opsDuration := some throttle.rollback }, true, []⟩
        | some drawn => ⟨{ g with opsDuration := some drawn }, false, []⟩
      else ⟨{ g with opsDuration := some throttle }, false, []⟩

def decideBatch (g : Gate) (count : Nat) (function : Functionality) (now : Timestamp) :
    Outcome Bool :=
  if g.stage = .passthrough then g.unchanged false
  else g.decideOperations function now count

/-- Give back the capacity that a batch of operations claimed. -/
def refundBatch (g : Gate) (count : Nat) (function : Functionality) : Except Error Gate :=
  if g.stage = .passthrough then .ok g
  else
    match g.operations.refund function count with
    | .ok operations => .ok { g with operations }
    | .error e => .error e

/-- Give back gas that a payer reserved and did not use. Exempt payers reserve none. -/
def refundGas (g : Gate) (config : Config) (payer : AccountId) (amount : Nat) : Gate :=
  if g.stage = .passthrough ∨ config.isExempt payer then g
  else { g with gas := g.gas.map (·.refund amount) }

end Throttling.Gate
