import Throttling.Config
import Throttling.Gate.Basic

/-!
# Reconfiguration

Replacing the throttles of a gate: all throttles of operations by those of a
definitions document, and each of the others by one that the configuration
describes.
-/

set_option autoImplicit false

namespace Throttling.Gate

def generationAfter (generation : Nat) : Nat := Word.low64 (generation + 1)

/-- Replace every throttle of operations. Rejected buckets are reported, then, by a verbose gate,
the rates that result. -/
def rebuild (g : Gate) (definitions : Definitions) : Outcome Unit :=
  let gate :=
    { g with
      operations := .compile definitions g.split g.nextGeneration
      nextGeneration := generationAfter g.nextGeneration }
  let rejected := (ThrottleSet.rejected definitions g.split).map fun r => .bucketRejected r.1 r.2
  { gate, result := ()
    events := rejected ++ if gate.verbose then [.definitionsResolved gate.summary] else [] }

def resolved (g : Gate) (throttle : Throttle) (enabled : Bool) : List Event :=
  (if enabled && throttle.rate == 0 then [.zeroRate g.stage throttle] else []) ++
    if g.verbose then [.throttleResolved g.stage throttle enabled] else []

/-- The gas throttle that a configuration describes for a stage. -/
def gasThrottleOf (stage : Stage) (contracts : ContractsConfig) : Throttle :=
  match stage with
  | .consensus =>
    .perSecond .gas contracts.maxGasPerSecAtConsensus contracts.gasThrottleBurstSeconds
  | _ => .perSecond .gas contracts.maxGasPerSec defaultBurstSeconds

def applyGas (g : Gate) (config : Config) : Outcome Unit :=
  let throttle := gasThrottleOf g.stage config.contracts
  { gate := { g with gas := some throttle }, result := ()
    events := g.resolved throttle config.contracts.throttleByGas }

def applyBytes (g : Gate) (config : Config) : Outcome Unit :=
  let throttle := .perSecond .bytes config.jumbo.maxBytesPerSec defaultBurstSeconds
  { gate := { g with bytes := some throttle }, result := ()
    events := g.resolved throttle config.jumbo.enabled }

def applyOpsDuration (g : Gate) (config : Config) : Outcome Unit :=
  let throttle := .perSecond .opsDuration config.contracts.maxOpsDuration defaultBurstSeconds
  { gate := { g with opsDuration := some throttle }, result := ()
    events := g.resolved throttle config.contracts.throttleByOpsDuration }

end Throttling.Gate
