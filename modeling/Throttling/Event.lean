import Throttling.Throttle

/-!
# Events

What a gate reports besides its verdicts. Decisions and reconfigurations return
their events in order, and the caller passes them on: recorded as they are, or
as entries of a log.
-/

set_option autoImplicit false

namespace Throttling

/-- Where in the pipeline a gate decides. -/
inductive Stage where
  /-- At ingest: enforces the cap on schedules that expire in one second, and runs at the ingest
  gas rate. -/
  | ingest
  /-- At consensus: runs at the gas rate and burst for consensus. -/
  | consensus
  /-- Lets everything pass and touches nothing. -/
  | passthrough
  deriving DecidableEq, Repr, Inhabited

def Stage.name : Stage → String
  | ingest => "FRONTEND"
  | consensus => "BACKEND"
  | passthrough => "NOOP"

inductive Event where
  /-- A bucket does not compile and was left out. -/
  | bucketRejected (bucket : String) (error : Error)
  /-- A throttle is in force at a rate of zero, so that it denies everything. -/
  | zeroRate (stage : Stage) (throttle : Throttle)
  /-- The effective requirements after a rebuild. -/
  | definitionsResolved (summary : String)
  /-- A throttle was configured. -/
  | throttleResolved (stage : Stage) (throttle : Throttle) (enabled : Bool)
  /-- A schedule carries a transaction that cannot be scheduled. -/
  | unschedulable (error : Error)
  /-- A decision needed a throttle that was never configured. -/
  | unconfigured (error : Error)
  /-- Stored usage levels do not line up with the throttles. -/
  | snapshotMismatch (expected actual : Nat)
  deriving DecidableEq, Repr

inductive LogLevel where
  | debug | info | warn | error
  deriving DecidableEq, Repr

def LogLevel.name : LogLevel → String
  | debug => "DEBUG"
  | info => "INFO"
  | warn => "WARN"
  | error => "ERROR"

/-- A log entry: a message with named fields. -/
structure LogEntry where
  level : LogLevel
  message : String
  fields : List (String × String)
  deriving DecidableEq, Repr

def Event.log : Event → LogEntry
  | bucketRejected bucket error =>
    ⟨.error, "When constructing throttle bucket from definitions",
      [("bucket", bucket), ("error", error.message)]⟩
  | zeroRate stage throttle =>
    ⟨.warn, throttle.kind.name ++ " throttling enabled, but limited to 0/sec",
      [("throttle_type", stage.name), ("resource", throttle.kind.name)]⟩
  | definitionsResolved summary => ⟨.info, summary, []⟩
  | throttleResolved stage throttle enabled =>
    ⟨.info,
      "Resolved " ++ throttle.describe ++ " (throttling " ++ (if enabled then "ON" else "OFF") ++
        ")",
      [("throttle_type", stage.name), ("capacity", toString throttle.capacity)]⟩
  | unschedulable error =>
    ⟨.debug, "ScheduleCreate was associated with an invalid txn", [("error", error.message)]⟩
  | unconfigured error => ⟨.warn, "Denying transaction", [("error", error.message)]⟩
  | snapshotMismatch expected actual =>
    ⟨.warn, "Usage snapshot does not match the active throttles",
      [("expected", toString expected), ("actual", toString actual)]⟩

end Throttling
