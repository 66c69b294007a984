import Throttling.Proofs.Gate.Accounting

/-!
# Exempt payers are invisible

An exempt payer is let through and charged nothing, but the decision on a transaction still commits
what the decision before it drew. No other call can see that commit: what is provisional is read by
a rollback only, and every decision that may roll back commits first. So throttles that differ in
nothing but what is provisional are coupled, and the calls made for exempt payers can be erased from
a run, wherever they stand in it and whatever they ask for (`exempt_calls_invisible`).
-/

set_option autoImplicit false

namespace Throttling

/-! ## Calls for exempt payers -/

/-- The account is referred to by a number from one to the last exempt number. -/
def AccountId.ExemptUnder (payer : AccountId) (config : Config) : Prop :=
  ∃ num, payer.account = .number num ∧ 1 ≤ num ∧ num ≤ config.accounts.lastThrottleExempt

theorem Config.isExempt_iff {config : Config} {payer : AccountId} :
    config.isExempt payer = true ↔ payer.ExemptUnder config := by
  unfold Config.isExempt AccountId.number? AccountId.ExemptUnder
  cases payer.account with
  | number num => simp [Config.isExemptNumber]
  | aliased bytes => simp

instance (payer : AccountId) (config : Config) : Decidable (payer.ExemptUnder config) :=
  decidable_of_iff _ Config.isExempt_iff

/-- The payer that a call is made for, and the configuration in force: the payer of a transaction,
of a query that names one, or of gas that is given back. -/
def Call.payer? : Call → Option (Config × AccountId)
  | transaction config _ txn _ => some (config, txn.payer)
  | query config _ _ payer _ => payer.map (config, ·)
  | refundGas config payer _ => some (config, payer)
  | _ => none

def Call.Exempt (c : Call) : Prop := ∃ p ∈ c.payer?, p.2.ExemptUnder p.1

instance (c : Call) : Decidable c.Exempt :=
  inferInstanceAs (Decidable (∃ p ∈ c.payer?, p.2.ExemptUnder p.1))

def Call.charged (calls : List Call) : List Call := calls.filter fun c => ¬ c.Exempt

/-- A reply that lets its call through, records no usage and comes without an event. -/
def Reply.Uncharged (reply : Reply × List Event) : Prop :=
  reply.1.denies = false ∧ reply.1.usages = [] ∧ reply.2 = []

/-- What a throttle has in use: whole units, the carried fraction, and the time of the last
decision. -/
def Throttle.level (t : Throttle) : Nat × Nat × Option Timestamp :=
  (t.bucket.used, t.bucket.carry, t.bucket.lastDecision)

/-! ## Provisional units do not show -/

/-- The throttles differ at most in what is provisional. -/
def Throttle.EqCommitted (a b : Throttle) : Prop := a.commit = b.commit

theorem Throttle.EqCommitted.commit_eq {a b : Throttle} (same : a.EqCommitted b) :
    a.commit = b.commit := same

theorem Throttle.EqCommitted.level_eq {a b : Throttle} (same : a.EqCommitted b) :
    a.level = b.level := by
  change a.commit.level = b.commit.level
  rw [same.commit_eq]

/-- A difference in what is provisional is gone with the commit at the start of a decision, and the
calls that do not commit do not read it. -/
def Coupling.committed : Coupling where
  between := fun _ => Throttle.EqCommitted
  within := fun _ => Eq
  times := fun _ => True
  stored := fun _ => True
  settle := fun same => congrArg Throttle.commit same
  commit := id
  draw? := by
    rintro _ a _ now - rfl amount
    cases a.draw? now amount with
    | none => exact .none
    | some drawn => exact .some rfl
  revoke := fun same amount => congrArg (·.revoke amount) same
  rollback := fun same => congrArg Throttle.rollback same
  refund := by
    intro _ a b same amount
    change (a.commit.refund amount).commit = (b.commit.refund amount).commit
    rw [same.commit_eq]
  restore := by
    intro _ a b s _ same
    change (a.commit.restore s).commit = (b.commit.restore s).commit
    rw [same.commit_eq]
  compiled := fun _ => rfl
  perSecond := fun _ _ _ => rfl

variable {g h : Gate}

private theorem rel_commit {x y : Option Throttle} (same : Option.Rel Throttle.EqCommitted x y) :
    Option.Rel Throttle.EqCommitted (x.map Throttle.commit) y := by
  cases same with
  | none => exact .none
  | some own => exact .some own

/-- A commit is not seen. -/
private theorem commit_eqCommitted (same : g.Related (fun _ => Throttle.EqCommitted) h) :
    g.commit.Related (fun _ => Throttle.EqCommitted) h where
  stage := same.stage
  verbose := same.verbose
  split := same.split
  nextGeneration := same.nextGeneration
  operations :=
    { costs := same.operations.costs
      split := same.operations.split
      generation := same.operations.generation
      throttles := List.forall₂_map_left_iff.mpr same.operations.throttles }
  gas := rel_commit same.gas
  bytes := rel_commit same.bytes
  opsDuration := same.opsDuration

/-- A call for an exempt payer is let through, and what it does is not seen. -/
theorem call_exempt {c : Call} (exempt : c.Exempt)
    (same : g.Related (fun _ => Throttle.EqCommitted) h) :
    Reply.Uncharged ((g.call c).result, (g.call c).events) ∧
      (g.call c).gate.Related (fun _ => Throttle.EqCommitted) h := by
  obtain ⟨p, named, exempt⟩ := exempt
  have passes := Config.isExempt_iff.mpr exempt
  cases c with
  | transaction config ledger txn now =>
    cases named
    simp only [Gate.call, Gate.decideTransaction, Gate.charge, if_pos passes]
    split
    · exact ⟨⟨rfl, rfl, rfl⟩, same⟩
    · exact ⟨⟨rfl, rfl, rfl⟩, { commit_eqCommitted same with }⟩
  | query config ledger query payer now =>
    obtain ⟨account, rfl, rfl⟩ := Option.map_eq_some_iff.mp named
    simp only [Gate.call, Gate.decideQuery, Option.any_some, if_pos passes]
    split
    · exact ⟨⟨rfl, rfl, rfl⟩, same⟩
    · exact ⟨⟨rfl, rfl, rfl⟩, same⟩
  | refundGas config payer amount =>
    cases named
    simp only [Gate.call, Gate.refundGas, if_pos (Or.inr passes)]
    exact ⟨⟨rfl, rfl, rfl⟩, same⟩
  | opsDuration | batch | refundBatch | reclaim | restore | rebuild | applyGas | applyBytes
  | applyOpsDuration | split | verbose => cases named

/-! ## Erasing them from a run -/

def Gate.chargedReplies (g : Gate) (calls : List Call) : List (Reply × List Event) :=
  ((calls.zip (g.replies calls)).filter fun p => ¬ p.1.Exempt).map (·.2)

theorem charged_cons_of_exempt {c : Call} (exempt : c.Exempt) (g : Gate) (cs : List Call) :
    Call.charged (c :: cs) = Call.charged cs ∧
      g.chargedReplies (c :: cs) = (g.call c).gate.chargedReplies cs := by
  simp [Call.charged, Gate.chargedReplies, Gate.replies, exempt]

theorem charged_cons_of_not_exempt {c : Call} (charged : ¬ c.Exempt) (g : Gate) (cs : List Call) :
    Call.charged (c :: cs) = c :: Call.charged cs ∧
      g.chargedReplies (c :: cs) =
        ((g.call c).result, (g.call c).events) :: (g.call c).gate.chargedReplies cs := by
  simp [Call.charged, Gate.chargedReplies, Gate.replies, charged]

/-- From gates that differ in what is provisional at most, a run and the run without the calls for
exempt payers answer the others alike and end in such gates. The calls for exempt payers are let
through. -/
theorem run_charged (same : g.Related (fun _ => Throttle.EqCommitted) h) (calls : List Call) :
    (∀ p ∈ calls.zip (g.replies calls), p.1.Exempt → Reply.Uncharged p.2) ∧
      g.chargedReplies calls = h.replies (Call.charged calls) ∧
      (g.run calls).Related (fun _ => Throttle.EqCommitted) (h.run (Call.charged calls)) := by
  induction calls generalizing g h with
  | nil => exact ⟨List.forall_mem_nil _, rfl, same⟩
  | cons c cs ih =>
    rw [Gate.replies, List.zip_cons_cons, List.forall_mem_cons]
    by_cases exempt : c.Exempt
    · obtain ⟨admitted, unseen⟩ := call_exempt exempt same
      obtain ⟨each, replies, final⟩ := ih unseen
      obtain ⟨erased, others⟩ := charged_cons_of_exempt exempt g cs
      rw [erased, others]
      exact ⟨⟨fun _ => admitted, each⟩, replies, final⟩
    · have step : (g.call c).Related Coupling.committed.between (h.call c) :=
        call_related ⟨fun _ _ => trivial, fun _ _ => trivial⟩ same
      obtain ⟨each, replies, final⟩ := ih step.gate
      obtain ⟨kept, others⟩ := charged_cons_of_not_exempt exempt g cs
      rw [kept, others, Gate.replies, replies, step.result, step.events]
      exact ⟨⟨fun own => absurd own exempt, each⟩, rfl, final⟩

/-- The throttles of gates that differ in what is provisional at most have the same in use. -/
theorem level_eq_of_related (same : g.Related (fun _ => Throttle.EqCommitted) h)
    (ref : ThrottleRef) :
    (g.throttle? ref).map Throttle.level = (h.throttle? ref).map Throttle.level := by
  have own := same.throttle? ref
  generalize g.throttle? ref = x, h.throttle? ref = y at own
  cases own with
  | none => rfl
  | some own => exact congrArg some own.level_eq

/-- On any gate and in any run, every call for an exempt payer is let through without being charged,
and without these calls the others are answered alike, with the same usages and events, and every
throttle ends with the same in use. -/
theorem exempt_calls_invisible (g : Gate) (calls : List Call) :
    (∀ p ∈ calls.zip (g.replies calls), p.1.Exempt → Reply.Uncharged p.2) ∧
      g.chargedReplies calls = g.replies (Call.charged calls) ∧
      ∀ ref, ((g.run calls).throttle? ref).map Throttle.level =
        ((g.run (Call.charged calls)).throttle? ref).map Throttle.level := by
  have every : g.Each fun _ _ => True :=
    ⟨fun _ _ => trivial, fun _ _ => trivial, fun _ _ => trivial, fun _ _ => trivial⟩
  obtain ⟨each, replies, final⟩ := run_charged (every.related fun _ _ _ => rfl) calls
  exact ⟨each, replies, level_eq_of_related final⟩

/-- Between two charged calls an exempt one commits the first, an exempt query asks for more gas
than there is, and gas is given back to an exempt payer. Without them the second is still denied,
and a third that fits is still let through. -/
theorem exempt_calls_invisible_between_draws :
    let config : Config := { contracts := { maxGasPerSecAtConsensus := 10 } }
    let call (payer gas : Nat) (now : Timestamp) : Call :=
      .transaction config Ledger.empty.view
        (.ofBody (.ofNumber payer) ⟨none, .contractCall gas⟩ 200) now
    let query : Call :=
      .query config Ledger.empty.view (.contractCallLocal 99) (some (.ofNumber 1000)) ⟨100, 0⟩
    let g := (Gate.new .consensus).run
      [.rebuild ⟨[⟨"calls", 1, 0, [⟨10, 0, [.contractCall]⟩]⟩]⟩, .applyGas config]
    let first := call 5000 6 ⟨100, 0⟩
    let second := call 1001 6 ⟨100, 0⟩
    let third := call 5000 4 ⟨100, 0⟩
    let calls :=
      [first, call 2 9 ⟨99, 0⟩, query, .refundGas config (.ofNumber 2) 6, second, third]
    (g.replies calls).map (·.1.denies) = [false, false, false, false, true, false] ∧
      g.chargedReplies calls = g.replies [first, second, third] ∧
      ((g.run calls).throttle? .gas).map Throttle.level = some (10, 0, some ⟨100, 0⟩) ∧
      ((g.run [first, second, third]).throttle? .gas).map Throttle.level =
        some (10, 0, some ⟨100, 0⟩) := by
  intro config call query g first second third calls
  have others : Call.charged calls = [first, second, third] := rfl
  have gas : ((g.run calls).throttle? .gas).map Throttle.level = some (10, 0, some ⟨100, 0⟩) := by
    decide +kernel
  obtain ⟨-, replies, final⟩ := exempt_calls_invisible g calls
  rw [others] at replies final
  exact ⟨by decide +kernel, replies, gas, (final .gas).symm.trans gas⟩

end Throttling
