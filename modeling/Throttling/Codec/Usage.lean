import Throttling.Codec.Entity
import Throttling.Tariff

/-!
# Usage records and usage levels in documents
-/

set_option autoImplicit false

namespace Throttling

namespace ThrottleRef

def reader : Reader ThrottleRef :=
  .variant
    (fun
      | "Gas" => some gas
      | "Bytes" => some bytes
      | "OpsDuration" => some opsDuration
      | _ => none)
    fun
      | "Tps" => some fun f d => (Reader.nat64 f d).map operations
      | _ => none

def toDocument : ThrottleRef → Document
  | operations index => .ofVariant "Tps" (.ofNat index)
  | gas => .ofString "Gas"
  | bytes => .ofString "Bytes"
  | opsDuration => .ofString "OpsDuration"

end ThrottleRef

namespace Usage

def reader : Reader Usage :=
  .record ["throttle", "amount", "generation"] fun fs => do
    return {
      throttle := ← fs.required "throttle" ThrottleRef.reader
      amount := ← fs.required "amount" .nat64
      generation := ← fs.required "generation" .nat64 }

def toDocument (u : Usage) : Document :=
  .ofMembers [("throttle", u.throttle.toDocument), ("amount", .ofNat u.amount),
    ("generation", .ofNat u.generation)]

end Usage

namespace Snapshot

def reader : Reader Snapshot :=
  .record ["used", "last_decision_time"] fun fs => do
    return {
      used := ← fs.required "used" .nat64
      lastDecision := ← fs.optional "last_decision_time" Timestamp.reader }

def toDocument (s : Snapshot) : Document :=
  .ofMembers [("used", .ofNat s.used),
    ("last_decision_time", .ofOption Timestamp.toDocument s.lastDecision)]

end Snapshot

namespace Snapshots

def reader : Reader Snapshots :=
  .record ["tps_throttles", "gas_throttle", "ops_duration_throttle"] fun fs => do
    return {
      operations := ← fs.defaulted "tps_throttles" (.list Snapshot.reader) []
      gas := ← fs.defaulted "gas_throttle" (.optional Snapshot.reader) none
      opsDuration := ← fs.defaulted "ops_duration_throttle" (.optional Snapshot.reader) none }

def toDocument (s : Snapshots) : Document :=
  .ofMembers [("tps_throttles", .ofList Snapshot.toDocument s.operations),
    ("gas_throttle", .ofOption Snapshot.toDocument s.gas),
    ("ops_duration_throttle", .ofOption Snapshot.toDocument s.opsDuration)]

end Snapshots

end Throttling
