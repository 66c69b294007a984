import Throttling.Account
import Throttling.Functionality
import Throttling.ScaleFactor

/-!
# Configuration

The live configuration that decisions consult, in the sections of the node's
configuration file. Every field has a default, so a file may give any part of
it. A `ConfigSource` holds the configuration in force: a fixed one, or one that
the node replaces while it runs.
-/

set_option autoImplicit false

namespace Throttling

structure AccountsConfig where
  /-- Payers numbered from one to this are never throttled. -/
  lastThrottleExempt : Nat := 1000
  deriving DecidableEq, Repr, Inhabited

/-- Throttling by gas and by the duration of operations. -/
structure ContractsConfig where
  throttleByGas : Bool := true
  /-- Gas per second at ingest. -/
  maxGasPerSec : Nat := 15000000
  /-- Gas per second at consensus. -/
  maxGasPerSecAtConsensus : Nat := 15000000
  /-- Burst period of the gas throttle at consensus. -/
  gasThrottleBurstSeconds : Nat := 1
  throttleByOpsDuration : Bool := false
  /-- Units of operation duration per second. -/
  maxOpsDuration : Nat := 6000000000
  deriving DecidableEq, Repr, Inhabited

/-- Throttling of oversized transactions by payload bytes. -/
structure JumboConfig where
  enabled : Bool := false
  /-- Excess bytes per second. -/
  maxBytesPerSec : Nat := 10485760
  /-- Functionalities that may exceed the standard size. -/
  allowedFunctionalities : List Functionality := [.ethereumTransaction]
  deriving DecidableEq, Repr, Inhabited

structure LedgerConfig where
  /-- Standard maximum size of a transaction. -/
  transactionMaxBytes : Nat := 6144
  shard : Nat := 0
  realm : Nat := 0
  /-- Lifetime of a schedule that does not wait for its expiry. -/
  scheduleTxExpiryTimeSecs : Int := 1800
  deriving DecidableEq, Repr, Inhabited

structure TokensConfig where
  /-- Cost of each minted serial number relative to a plain mint. -/
  nftsMintThrottleScaleFactor : ScaleFactor :=
    ⟨5, 2, by decide, by decide, by decide, by decide⟩
  /-- Whether a balance query is charged for each association. -/
  countingGetBalanceThrottleEnabled : Bool := false
  /-- Most associations that one balance query is charged for. -/
  maxRelsPerInfoQuery : Nat := 1000
  deriving DecidableEq, Repr, Inhabited

structure EntitiesConfig where
  /-- Whether transfers may create any number of associations. -/
  unlimitedAutoAssociationsEnabled : Bool := false
  deriving DecidableEq, Repr, Inhabited

structure SchedulingConfig where
  /-- Whether schedules may wait for an explicit expiry. -/
  longTermEnabled : Bool := false
  /-- Schedules that may expire in one second. -/
  maxTxnPerSec : Nat := 100
  deriving DecidableEq, Repr, Inhabited

/-- The whole configuration; what is not given is at its default. -/
structure Config where
  accounts : AccountsConfig := {}
  contracts : ContractsConfig := {}
  jumbo : JumboConfig := {}
  ledger : LedgerConfig := {}
  tokens : TokensConfig := {}
  entities : EntitiesConfig := {}
  scheduling : SchedulingConfig := {}
  deriving DecidableEq, Repr, Inhabited

namespace Config

/-- Whether an account number lies in the exempt range, which starts at one. -/
def isExemptNumber (c : Config) (num : Nat) : Bool :=
  decide (1 ≤ num ∧ num ≤ c.accounts.lastThrottleExempt)

/-- Whether a payer is exempt. A payer referred to by alias never is. -/
def isExempt (c : Config) (payer : AccountId) : Bool := payer.number?.any c.isExemptNumber

/-- Payers up to this number are exempt. -/
def withLastThrottleExempt (c : Config) (num : Nat) : Config :=
  { c with accounts.lastThrottleExempt := num }

def withThrottleByGas (c : Config) (enable : Bool) : Config :=
  { c with contracts.throttleByGas := enable }

def withMaxGasPerSec (c : Config) (gas : Nat) : Config :=
  { c with contracts.maxGasPerSec := gas }

def withConsensusGas (c : Config) (gas burstSeconds : Nat) : Config :=
  { c with contracts.maxGasPerSecAtConsensus := gas
           contracts.gasThrottleBurstSeconds := burstSeconds }

def withOpsDuration (c : Config) (enable : Bool) (maxOpsDuration : Nat) : Config :=
  { c with contracts.throttleByOpsDuration := enable
           contracts.maxOpsDuration := maxOpsDuration }

/-- Accept oversized transactions at a rate of excess bytes, or do not. -/
def withJumbo (c : Config) (enable : Bool) (maxBytesPerSec : Nat) : Config :=
  { c with jumbo.enabled := enable, jumbo.maxBytesPerSec := maxBytesPerSec }

def withTransactionMaxBytes (c : Config) (bytes : Nat) : Config :=
  { c with ledger.transactionMaxBytes := bytes }

def withNftsMintScaleFactor (c : Config) (scale : ScaleFactor) : Config :=
  { c with tokens.nftsMintThrottleScaleFactor := scale }

/-- Charge balance queries for each association up to a limit, or do not. -/
def withCountingGetBalance (c : Config) (enable : Bool) (maxRels : Nat) : Config :=
  { c with tokens.countingGetBalanceThrottleEnabled := enable
           tokens.maxRelsPerInfoQuery := maxRels }

def withUnlimitedAutoAssociations (c : Config) (enable : Bool) : Config :=
  { c with entities.unlimitedAutoAssociationsEnabled := enable }

def withLongTermScheduling (c : Config) (enable : Bool) (maxTxnPerSec : Nat) : Config :=
  { c with scheduling.longTermEnabled := enable, scheduling.maxTxnPerSec := maxTxnPerSec }

end Config

/-- Where decisions take the configuration from. -/
inductive ConfigSource where
  /-- A configuration that never changes. -/
  | fixed (config : Config)
  /-- A configuration that may be replaced. -/
  | shared (config : Config)
  deriving DecidableEq, Repr

namespace ConfigSource

def current : ConfigSource → Config
  | fixed config => config
  | shared config => config

/-- Replace the configuration, where that is possible. -/
def update (source : ConfigSource) (config : Config) : ConfigSource :=
  match source with
  | fixed old => fixed old
  | shared _ => shared config

end ConfigSource

end Throttling
