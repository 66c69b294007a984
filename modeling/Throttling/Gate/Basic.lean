import Throttling.Event
import Throttling.ThrottleSet

/-!
# Gates

A gate decides for one stage of the pipeline. It owns the throttles of
operations, in a compiled set, and the throttles of gas, payload bytes and
operation duration, each of which may not be configured yet. Decisions are
strictly sequential: each is a function from a gate to the gate after it. The
configuration and the ledger are arguments of a decision and no part of the
state.
-/

set_option autoImplicit false

namespace Throttling

structure Gate where
  stage : Stage
  /-- Whether resolved throttles are reported after every reconfiguration. -/
  verbose : Bool
  /-- Number of ways capacity will be split at the next rebuild. -/
  split : Nat
  operations : ThrottleSet
  /-- Generation of the next set; generations have 64 bits and wrap around. -/
  nextGeneration : Nat
  gas : Option Throttle
  bytes : Option Throttle
  opsDuration : Option Throttle
  /-- Whether the gas throttle denied the last transaction. -/
  deniedByGas : Bool
  deriving DecidableEq, Repr

/-- A result together with the gate after it and the events on the way. -/
structure Outcome (α : Type) where
  gate : Gate
  result : α
  events : List Event
  deriving Repr

namespace Gate

def new (stage : Stage) : Gate :=
  { stage, verbose := false, split := 1, operations := .empty 0, nextGeneration := 1,
    gas := none, bytes := none, opsDuration := none, deniedByGas := false }

def withVerbose (g : Gate) (verbose : Bool) : Gate := { g with verbose }

/-- Split capacity a number of ways from the next rebuild on, one way at least. -/
def withSplit (g : Gate) (split : Nat) : Gate := { g with split := max split 1 }

/-- Make the draws of the last decision permanent. The throttle of operation duration commits on
its own. -/
def commit (g : Gate) : Gate :=
  { g with
    operations := g.operations.commit
    gas := g.gas.map Throttle.commit
    bytes := g.bytes.map Throttle.commit }

def rollback (g : Gate) : Gate :=
  { g with
    operations := g.operations.rollback
    gas := g.gas.map Throttle.rollback
    bytes := g.bytes.map Throttle.rollback }

def configured (kind : ResourceKind) : Option Throttle → Except Error Throttle
  | some throttle => .ok throttle
  | none => .error (.notConfigured kind)

def gasThrottle (g : Gate) : Except Error Throttle := configured .gas g.gas

def bytesThrottle (g : Gate) : Except Error Throttle := configured .bytes g.bytes

def opsDurationThrottle (g : Gate) : Except Error Throttle := configured .opsDuration g.opsDuration

def throttlesFor (g : Gate) (function : Functionality) : List Throttle :=
  g.operations.throttlesFor function

/-- The effective rates of every functionality. -/
def summary (g : Gate) : String :=
  let title := "Resolved " ++ g.stage.name ++ " (after splitting capacity " ++
    toString g.operations.split ++ " ways) -"
  g.operations.describe.foldl (fun text line => text ++ "\n  " ++ line) title

def snapshots (g : Gate) : Snapshots :=
  { operations := g.operations.throttles.map Throttle.snapshot
    gas := g.gas.map Throttle.snapshot
    opsDuration := g.opsDuration.map Throttle.snapshot }

/-- Return each throttle of a list to the usage level at its position; the others stay. -/
def restoreEach : List Throttle → List Snapshot → List Throttle
  | t :: ts, s :: ss => t.restore s :: restoreEach ts ss
  | ts, _ => ts

def restoreOne (throttle : Option Throttle) (snapshot : Option Snapshot) : Option Throttle :=
  match throttle, snapshot with
  | some t, some s => some (t.restore s)
  | t, _ => t

/-- Return to usage levels, position by position. Levels without a throttle are ignored, and a
different number of them is reported. -/
def restore (g : Gate) (s : Snapshots) : Outcome Unit :=
  let expected := g.operations.throttles.length
  let actual := s.operations.length
  { gate :=
      { g with
        operations :=
          { g.operations with throttles := restoreEach g.operations.throttles s.operations }
        gas := restoreOne g.gas s.gas
        opsDuration := restoreOne g.opsDuration s.opsDuration }
    result := ()
    events := if expected = actual then [] else [.snapshotMismatch expected actual] }

/-- Free what one usage drew. A usage of operations counts only for the set it was drawn from. -/
def reclaimUsage (g : Gate) (usage : Usage) : Gate :=
  match usage.throttle with
  | .operations index =>
    if usage.generation = g.operations.generation then
      { g with
        operations :=
          { g.operations with
            throttles := g.operations.throttles.modify index (·.refund usage.amount) } }
    else g
  | .gas => { g with gas := g.gas.map (·.refund usage.amount) }
  | .bytes => { g with bytes := g.bytes.map (·.refund usage.amount) }
  | .opsDuration => { g with opsDuration := g.opsDuration.map (·.refund usage.amount) }

def reclaim (g : Gate) (usages : List Usage) : Gate := usages.foldl reclaimUsage g

end Gate

end Throttling
