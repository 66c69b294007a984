import Throttling.Codec.Entity
import Throttling.Config
import Throttling.Error
import Throttling.Toml.Parser
import Throttling.Toml.Printer

/-!
# Configuration in documents

Sections and keys of the configuration file. What a document leaves out is at
its default, whole sections included.
-/

set_option autoImplicit false

namespace Throttling

namespace AccountsConfig

def reader : Reader AccountsConfig :=
  .record ["last_throttle_exempt"] fun fs => do
    let base : AccountsConfig := {}
    return ⟨← fs.defaulted "last_throttle_exempt" .nat64 base.lastThrottleExempt⟩

def toDocument (c : AccountsConfig) : Document :=
  .ofMembers [("last_throttle_exempt", .ofNat c.lastThrottleExempt)]

end AccountsConfig

namespace ContractsConfig

def reader : Reader ContractsConfig :=
  .record ["throttle_by_gas", "max_gas_per_sec", "max_gas_per_sec_backend",
      "gas_throttle_burst_seconds", "throttle_by_ops_duration", "max_ops_duration"] fun fs => do
    let base : ContractsConfig := {}
    return {
      throttleByGas := ← fs.defaulted "throttle_by_gas" .bool base.throttleByGas
      maxGasPerSec := ← fs.defaulted "max_gas_per_sec" .nat64 base.maxGasPerSec
      maxGasPerSecAtConsensus :=
        ← fs.defaulted "max_gas_per_sec_backend" .nat64 base.maxGasPerSecAtConsensus
      gasThrottleBurstSeconds :=
        ← fs.defaulted "gas_throttle_burst_seconds" .nat64 base.gasThrottleBurstSeconds
      throttleByOpsDuration :=
        ← fs.defaulted "throttle_by_ops_duration" .bool base.throttleByOpsDuration
      maxOpsDuration := ← fs.defaulted "max_ops_duration" .nat64 base.maxOpsDuration }

def toDocument (c : ContractsConfig) : Document :=
  .ofMembers [("throttle_by_gas", .bool c.throttleByGas),
    ("max_gas_per_sec", .ofNat c.maxGasPerSec),
    ("max_gas_per_sec_backend", .ofNat c.maxGasPerSecAtConsensus),
    ("gas_throttle_burst_seconds", .ofNat c.gasThrottleBurstSeconds),
    ("throttle_by_ops_duration", .bool c.throttleByOpsDuration),
    ("max_ops_duration", .ofNat c.maxOpsDuration)]

end ContractsConfig

namespace JumboConfig

def reader : Reader JumboConfig :=
  .record ["enabled", "max_bytes_per_sec", "allowed_functionalities"] fun fs => do
    let base : JumboConfig := {}
    return {
      enabled := ← fs.defaulted "enabled" .bool base.enabled
      maxBytesPerSec := ← fs.defaulted "max_bytes_per_sec" .nat64 base.maxBytesPerSec
      allowedFunctionalities :=
        ← fs.defaulted "allowed_functionalities" (.list Functionality.reader)
          base.allowedFunctionalities }

def toDocument (c : JumboConfig) : Document :=
  .ofMembers [("enabled", .bool c.enabled), ("max_bytes_per_sec", .ofNat c.maxBytesPerSec),
    ("allowed_functionalities", .ofList Functionality.toDocument c.allowedFunctionalities)]

end JumboConfig

namespace LedgerConfig

def reader : Reader LedgerConfig :=
  .record ["transaction_max_bytes", "shard", "realm", "schedule_tx_expiry_time_secs"] fun fs => do
    let base : LedgerConfig := {}
    return {
      transactionMaxBytes := ← fs.defaulted "transaction_max_bytes" .nat64 base.transactionMaxBytes
      shard := ← fs.defaulted "shard" .nat64 base.shard
      realm := ← fs.defaulted "realm" .nat64 base.realm
      scheduleTxExpiryTimeSecs :=
        ← fs.defaulted "schedule_tx_expiry_time_secs" .int64 base.scheduleTxExpiryTimeSecs }

def toDocument (c : LedgerConfig) : Document :=
  .ofMembers [("transaction_max_bytes", .ofNat c.transactionMaxBytes), ("shard", .ofNat c.shard),
    ("realm", .ofNat c.realm),
    ("schedule_tx_expiry_time_secs", .integer c.scheduleTxExpiryTimeSecs)]

end LedgerConfig

namespace TokensConfig

def reader : Reader TokensConfig :=
  .record ["nfts_mint_throttle_scale_factor", "counting_get_balance_throttle_enabled",
      "max_rels_per_info_query"] fun fs => do
    let base : TokensConfig := {}
    return {
      nftsMintThrottleScaleFactor :=
        ← fs.defaulted "nfts_mint_throttle_scale_factor" ScaleFactor.reader
          base.nftsMintThrottleScaleFactor
      countingGetBalanceThrottleEnabled :=
        ← fs.defaulted "counting_get_balance_throttle_enabled" .bool
          base.countingGetBalanceThrottleEnabled
      maxRelsPerInfoQuery :=
        ← fs.defaulted "max_rels_per_info_query" .nat64 base.maxRelsPerInfoQuery }

def toDocument (c : TokensConfig) : Document :=
  .ofMembers [("nfts_mint_throttle_scale_factor", c.nftsMintThrottleScaleFactor.toDocument),
    ("counting_get_balance_throttle_enabled", .bool c.countingGetBalanceThrottleEnabled),
    ("max_rels_per_info_query", .ofNat c.maxRelsPerInfoQuery)]

end TokensConfig

namespace EntitiesConfig

def reader : Reader EntitiesConfig :=
  .record ["unlimited_auto_associations_enabled"] fun fs => do
    let base : EntitiesConfig := {}
    return ⟨← fs.defaulted "unlimited_auto_associations_enabled" .bool
      base.unlimitedAutoAssociationsEnabled⟩

def toDocument (c : EntitiesConfig) : Document :=
  .ofMembers [("unlimited_auto_associations_enabled", .bool c.unlimitedAutoAssociationsEnabled)]

end EntitiesConfig

namespace SchedulingConfig

def reader : Reader SchedulingConfig :=
  .record ["long_term_enabled", "max_txn_per_sec"] fun fs => do
    let base : SchedulingConfig := {}
    return {
      longTermEnabled := ← fs.defaulted "long_term_enabled" .bool base.longTermEnabled
      maxTxnPerSec := ← fs.defaulted "max_txn_per_sec" .nat64 base.maxTxnPerSec }

def toDocument (c : SchedulingConfig) : Document :=
  .ofMembers [("long_term_enabled", .bool c.longTermEnabled),
    ("max_txn_per_sec", .ofNat c.maxTxnPerSec)]

end SchedulingConfig

namespace Config

def reader : Reader Config :=
  .record ["accounts", "contracts", "jumbo", "ledger", "tokens", "entities", "scheduling"]
    fun fs => do
      return {
        accounts := ← fs.defaulted "accounts" AccountsConfig.reader {}
        contracts := ← fs.defaulted "contracts" ContractsConfig.reader {}
        jumbo := ← fs.defaulted "jumbo" JumboConfig.reader {}
        ledger := ← fs.defaulted "ledger" LedgerConfig.reader {}
        tokens := ← fs.defaulted "tokens" TokensConfig.reader {}
        entities := ← fs.defaulted "entities" EntitiesConfig.reader {}
        scheduling := ← fs.defaulted "scheduling" SchedulingConfig.reader {} }

def toDocument (c : Config) : Document :=
  .ofMembers [("accounts", c.accounts.toDocument), ("contracts", c.contracts.toDocument),
    ("jumbo", c.jumbo.toDocument), ("ledger", c.ledger.toDocument),
    ("tokens", c.tokens.toDocument), ("entities", c.entities.toDocument),
    ("scheduling", c.scheduling.toDocument)]

def ofToml (text : String) : Except Error Config :=
  match Toml.readText reader text with
  | some config => .ok config
  | none => .error .invalidConfig

/-- Parses the contents of a TOML file, which must be UTF-8; there are none if the file could not be
read. -/
def ofFile (contents : Option (List UInt8)) : Except Error Config :=
  match contents.bind fun bytes => String.fromUTF8? ⟨bytes.toArray⟩ with
  | some text => ofToml text
  | none => .error .invalidConfig

/-- Writes a configuration as TOML. An integer above the signed 64-bit limit cannot be written. -/
def toToml (c : Config) : Except Error String :=
  match Toml.render? c.toDocument with
  | some text => .ok text
  | none => .error .invalidConfig

end Config

end Throttling
