import Throttling.Gate.Query
import Throttling.Gate.Settings

/-!
# Calls on a gate

Everything that can be asked of a gate, as one type of calls: the four kinds of decisions, the ways
of giving capacity back, restoring stored levels, and reconfiguration. A run is a list of calls made
one after the other. Each call brings its own configuration and ledger, so both may change between
calls.
-/

set_option autoImplicit false

namespace Throttling

def Snapshot.Normal (s : Snapshot) : Prop := ∀ t ∈ s.lastDecision, t.Normal

instance (s : Snapshot) : Decidable s.Normal :=
  inferInstanceAs (Decidable (∀ t ∈ s.lastDecision, t.Normal))

inductive Call where
  | transaction (config : Config) (ledger : LedgerView) (txn : Transaction) (now : Timestamp)
  | query (config : Config) (ledger : LedgerView) (query : Query) (payer : Option AccountId)
      (now : Timestamp)
  | opsDuration (config : Config) (duration : Nat) (now : Timestamp)
  | batch (count : Nat) (function : Functionality) (now : Timestamp)
  | refundBatch (count : Nat) (function : Functionality)
  | refundGas (config : Config) (payer : AccountId) (amount : Nat)
  | reclaim (usages : List Usage)
  | restore (snapshots : Snapshots)
  | rebuild (definitions : Definitions)
  | applyGas (config : Config)
  | applyBytes (config : Config)
  | applyOpsDuration (config : Config)
  | split (ways : Nat)
  | verbose (on : Bool)

namespace Call

def time? : Call → Option Timestamp
  | transaction _ _ _ now | query _ _ _ _ now | opsDuration _ _ now | batch _ _ now => some now
  | _ => none

def levels : Call → List Snapshot
  | restore s => s.operations ++ s.gas.toList ++ s.opsDuration.toList
  | _ => []

def rebuilds : Call → Bool
  | rebuild _ => true
  | _ => false

theorem rebuilds_iff {c : Call} : c.rebuilds = true ↔ ∃ definitions, c = rebuild definitions := by
  cases c <;> simp [rebuilds]

/-- The time of a call and the levels it brings are among those allowed. -/
structure Allowed (times : Timestamp → Prop) (stored : Snapshot → Prop) (c : Call) : Prop where
  time : ∀ t ∈ c.time?, times t
  levels : ∀ s ∈ c.levels, stored s

def Normal (c : Call) : Prop := c.Allowed Timestamp.Normal Snapshot.Normal

instance (c : Call) : Decidable c.Normal :=
  decidable_of_iff ((∀ t ∈ c.time?, t.Normal) ∧ ∀ s ∈ c.levels, s.Normal)
    ⟨fun h => ⟨h.1, h.2⟩, fun h => ⟨h.time, h.levels⟩⟩

/-- A decision is not made before `now`. -/
def NotBefore (now : Timestamp) (c : Call) : Prop := ∀ t ∈ c.time?, now ≤ t

instance (now : Timestamp) (c : Call) : Decidable (c.NotBefore now) :=
  inferInstanceAs (Decidable (∀ t ∈ c.time?, now ≤ t))

end Call

inductive Reply where
  | decided (decision : Decision)
  | throttled (rejected : Bool)
  | refunded (error : Option Error)
  | done
  deriving DecidableEq, Repr

namespace Reply

def denies : Reply → Bool
  | decided decision => decision.verdict.rejects
  | throttled rejected => rejected
  | refunded _ | done => false

def usages : Reply → List Usage
  | decided decision => decision.usages
  | _ => []

end Reply

/-- The same outcome with its result seen through `f`. -/
def Outcome.map {α β : Type} (f : α → β) (o : Outcome α) : Outcome β :=
  ⟨o.gate, f o.result, o.events⟩

namespace Gate

/-- Make a call. A refund that fails leaves the gate as it was. -/
def call (g : Gate) : Call → Outcome Reply
  | .transaction config ledger txn now =>
    (g.decideTransaction config ledger txn now).map .decided
  | .query config ledger query payer now =>
    (g.decideQuery config ledger query payer now).map .throttled
  | .opsDuration config duration now => (g.decideOpsDuration config duration now).map .throttled
  | .batch count function now => (g.decideBatch count function now).map .throttled
  | .refundBatch count function =>
    match g.refundBatch count function with
    | .ok gate => ⟨gate, .refunded none, []⟩
    | .error e => ⟨g, .refunded (some e), []⟩
  | .refundGas config payer amount => ⟨g.refundGas config payer amount, .done, []⟩
  | .reclaim usages => ⟨g.reclaim usages, .done, []⟩
  | .restore snapshots => (g.restore snapshots).map fun _ => .done
  | .rebuild definitions => (g.rebuild definitions).map fun _ => .done
  | .applyGas config => (g.applyGas config).map fun _ => .done
  | .applyBytes config => (g.applyBytes config).map fun _ => .done
  | .applyOpsDuration config => (g.applyOpsDuration config).map fun _ => .done
  | .split ways => ⟨g.withSplit ways, .done, []⟩
  | .verbose on => ⟨g.withVerbose on, .done, []⟩

def run (g : Gate) (calls : List Call) : Gate := calls.foldl (fun g c => (g.call c).gate) g

/-- The gate is what some calls, all of them allowed, have made of a new gate. -/
def Reached (allowed : Call → Prop) (g : Gate) : Prop :=
  ∃ (stage : Stage) (calls : List Call), (∀ c ∈ calls, allowed c) ∧ g = (Gate.new stage).run calls

/-- The replies to calls in turn, with the events reported on the way. -/
def replies (g : Gate) : List Call → List (Reply × List Event)
  | [] => []
  | c :: cs => ((g.call c).result, (g.call c).events) :: (g.call c).gate.replies cs

variable {g : Gate} {allowed : Call → Prop}

theorem new_reached (allowed : Call → Prop) (stage : Stage) : (Gate.new stage).Reached allowed :=
  ⟨stage, [], List.forall_mem_nil allowed, rfl⟩

theorem Reached.imp {other : Call → Prop} (weaker : ∀ c, allowed c → other c)
    (reached : g.Reached allowed) : g.Reached other := by
  obtain ⟨stage, calls, each, rfl⟩ := reached
  exact ⟨stage, calls, fun c member => weaker c (each c member), rfl⟩

theorem Reached.call (reached : g.Reached allowed) {c : Call} (allows : allowed c) :
    (g.call c).gate.Reached allowed := by
  obtain ⟨stage, calls, each, rfl⟩ := reached
  refine ⟨stage, calls ++ [c], fun d member => ?_, ?_⟩
  · rcases List.mem_append.mp member with earlier | last
    · exact each d earlier
    · rw [List.mem_singleton.mp last]
      exact allows
  · simp only [run, List.foldl_append, List.foldl_cons, List.foldl_nil]

/-- What holds of new gates and is kept by every allowed call holds of the gates reached. -/
theorem Reached.induction {P : Gate → Prop} (new : ∀ stage, P (Gate.new stage))
    (call : ∀ g : Gate, g.Reached allowed → P g → ∀ c, allowed c → P (g.call c).gate)
    (reached : g.Reached allowed) : P g := by
  obtain ⟨stage, calls, each, rfl⟩ := reached
  suffices general : ∀ h : Gate, h.Reached allowed → P h → P (h.run calls) from
    general _ (new_reached allowed stage) (new stage)
  induction calls with
  | nil => exact fun h _ holds => holds
  | cons c cs ih =>
    intro h reached holds
    have allows := each c List.mem_cons_self
    exact ih (fun d member => each d (List.mem_cons_of_mem c member)) _ (reached.call allows)
      (call h reached holds c allows)

end Gate

end Throttling
