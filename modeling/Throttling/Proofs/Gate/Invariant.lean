import Throttling.Proofs.Bucket.Checked
import Throttling.Proofs.Definitions
import Throttling.Proofs.Gate.Coupling

/-!
# Invariants of gates

A property of single throttles that every operation keeps holds of each throttle of a gate along
every run: it couples the gate with itself. Two of them are used throughout. Along any run all
buckets are well formed and the throttles that do not meter operations draw in the unit of their
resource (`Gate.Reached.sound`); along a run of normal calls the decision times are normal, too
(`Gate.Reached.timed`). From the first it follows that no number of a bucket ever comes to the limit
of its range, also within a decision (`Gate.Reached.buckets_exact`).
-/

set_option autoImplicit false

namespace Throttling

structure Gate.Each (P : ResourceKind → Throttle → Prop) (g : Gate) : Prop where
  operations : ∀ t ∈ g.operations.throttles, P .operations t
  gas : ∀ t ∈ g.gas, P .gas t
  bytes : ∀ t ∈ g.bytes, P .bytes t
  opsDuration : ∀ t ∈ g.opsDuration, P .opsDuration t

section Each

variable {P Q : ResourceKind → Throttle → Prop} {R : ResourceKind → Throttle → Throttle → Prop}
  {g h : Gate}

theorem Gate.Each.imp (weaker : ∀ kind t, P kind t → Q kind t) (each : g.Each P) : g.Each Q where
  operations := fun t member => weaker _ t (each.operations t member)
  gas := fun t member => weaker _ t (each.gas t member)
  bytes := fun t member => weaker _ t (each.bytes t member)
  opsDuration := fun t member => weaker _ t (each.opsDuration t member)

theorem Gate.Each.commit (keeps : ∀ kind t, P kind t → P kind t.commit) (each : g.Each P) :
    g.commit.Each P where
  operations := by
    intro t member
    obtain ⟨t, old, rfl⟩ := List.mem_map.mp member
    exact keeps _ t (each.operations t old)
  gas := by
    intro t member
    obtain ⟨t, old, rfl⟩ := Option.mem_map.mp member
    exact keeps _ t (each.gas t old)
  bytes := by
    intro t member
    obtain ⟨t, old, rfl⟩ := Option.mem_map.mp member
    exact keeps _ t (each.bytes t old)
  opsDuration := each.opsDuration

private theorem rel_self {α : Type} {p : α → Prop} {r : α → α → Prop} {x : Option α}
    (each : ∀ a ∈ x, p a) (self : ∀ a, p a → r a a) : Option.Rel r x x := by
  cases x with
  | none => exact .none
  | some a => exact .some (self a (each a rfl))

/-- A gate is related to itself by what relates each of its throttles to itself. -/
theorem Gate.Each.related (each : g.Each P) (self : ∀ kind t, P kind t → R kind t t) :
    g.Related R g where
  stage := rfl
  verbose := rfl
  split := rfl
  nextGeneration := rfl
  operations :=
    { costs := rfl
      split := rfl
      generation := rfl
      throttles :=
        List.forall₂_same.mpr fun t member => self _ t (each.operations t member) }
  gas := rel_self each.gas (self _)
  bytes := rel_self each.bytes (self _)
  opsDuration := rel_self each.opsDuration (self _)

private theorem forall_right_of_rel {α β : Type} {p : β → Prop} {r : α → β → Prop} {x : Option α}
    {y : Option β} (right : ∀ a b, r a b → p b) (related : Option.Rel r x y) : ∀ b ∈ y, p b := by
  intro b member
  cases member
  cases related with
  | some h => exact right _ _ h

private theorem forall_right_of_forall₂ {α β : Type} {p : β → Prop} {r : α → β → Prop}
    {xs : List α} {ys : List β} (right : ∀ a b, r a b → p b) (related : List.Forall₂ r xs ys) :
    ∀ b ∈ ys, p b := by
  induction related with
  | nil =>
    intro b member
    cases member
  | cons head tail ih =>
    intro b member
    rcases List.mem_cons.mp member with rfl | later
    · exact right _ _ head
    · exact ih b later

/-- What a relation says of its right side holds of each throttle there. -/
theorem Gate.Related.each_right (right : ∀ kind a b, R kind a b → P kind b)
    (related : g.Related R h) : h.Each P where
  operations := forall_right_of_forall₂ (right _) related.operations.throttles
  gas := forall_right_of_rel (right _) related.gas
  bytes := forall_right_of_rel (right _) related.bytes
  opsDuration := forall_right_of_rel (right _) related.opsDuration

end Each

/-- A property of throttles that everything a gate does to them keeps, as long as decisions are made
at `times` and levels restored are `stored`. -/
structure Invariant where
  holds : ResourceKind → Throttle → Prop
  times : Timestamp → Prop
  stored : Snapshot → Prop
  commit : ∀ {kind t}, holds kind t → holds kind t.commit
  draw? : ∀ {kind t t' now amount}, times now → holds kind t → t.draw? now amount = some t' →
    holds kind t'
  revoke : ∀ {kind t}, holds kind t → ∀ amount, holds kind (t.revoke amount)
  rollback : ∀ {kind t}, holds kind t → holds kind t.rollback
  refund : ∀ {kind t}, holds kind t → ∀ amount, holds kind (t.refund amount)
  restore : ∀ {kind t s}, stored s → holds kind t → holds kind (t.restore s)
  compiled : ∀ {definition : BucketDefinition} {split : Nat} {bucket : CompiledBucket},
    definition.compile split = .ok bucket → holds .operations bucket.throttle
  perSecond : ∀ {kind}, kind ≠ .operations → ∀ rate burstSeconds,
    holds kind (.perSecond kind rate burstSeconds)

variable {I : Invariant} {g : Gate}

namespace Invariant

def Diagonal (I : Invariant) (kind : ResourceKind) (a b : Throttle) : Prop := a = b ∧ I.holds kind a

/-- An invariant couples every throttle with itself. -/
def coupling (I : Invariant) : Coupling where
  between := I.Diagonal
  within := I.Diagonal
  times := I.times
  stored := I.stored
  settle := id
  commit := by
    rintro kind a b ⟨rfl, holds⟩
    exact ⟨rfl, I.commit holds⟩
  draw? := by
    rintro kind a b now time ⟨rfl, holds⟩ amount
    cases drawn : a.draw? now amount with
    | none => exact .none
    | some t => exact .some ⟨rfl, I.draw? time holds drawn⟩
  revoke := by
    rintro kind a b ⟨rfl, holds⟩ amount
    exact ⟨rfl, I.revoke holds amount⟩
  rollback := by
    rintro kind a b ⟨rfl, holds⟩
    exact ⟨rfl, I.rollback holds⟩
  refund := by
    rintro kind a b ⟨rfl, holds⟩ amount
    exact ⟨rfl, I.refund holds amount⟩
  restore := by
    rintro kind a b s stored ⟨rfl, holds⟩
    exact ⟨rfl, I.restore stored holds⟩
  compiled := fun compiled => ⟨rfl, I.compiled compiled⟩
  perSecond := fun other rate burstSeconds => ⟨rfl, I.perSecond other rate burstSeconds⟩

end Invariant

/-- The invariant holds of each throttle exactly if the gate is coupled with itself. -/
theorem each_iff_related : g.Each I.holds ↔ g.Related I.coupling.between g := by
  constructor
  · exact fun each => each.related fun kind t holds => ⟨rfl, holds⟩
  · refine fun related => related.each_right fun kind a b same => ?_
    obtain ⟨rfl, holds⟩ := same
    exact holds

/-- Every call keeps an invariant of each throttle. -/
theorem call_each {c : Call} (allowed : c.Allowed I.times I.stored) (each : g.Each I.holds) :
    (g.call c).gate.Each I.holds :=
  each_iff_related.mpr (call_related (C := I.coupling) allowed (each_iff_related.mp each)).gate

/-- An invariant holds of each throttle of the gates that allowed calls lead to. -/
theorem Gate.Reached.each (I : Invariant) (reached : g.Reached (·.Allowed I.times I.stored)) :
    g.Each I.holds := by
  obtain ⟨stage, calls, allowed, rfl⟩ := reached
  exact each_iff_related.mpr (run_related (C := I.coupling) allowed (new_related _ stage))

/-! ## Sound throttles -/

/-- A well-formed bucket, drawn from in the unit of the resource if that is not operations. -/
structure Throttle.Sound (kind : ResourceKind) (t : Throttle) : Prop where
  wellFormed : t.bucket.WellFormed
  unitsPerAmount : kind ≠ .operations → t.unitsPerAmount = 1

/-- Soundness does not depend on times or on the levels restored. -/
def Invariant.sound : Invariant where
  holds := Throttle.Sound
  times := fun _ => True
  stored := fun _ => True
  commit := fun h => ⟨Bucket.commit_wellFormed h.wellFormed, h.unitsPerAmount⟩
  draw? := by
    intro kind t t' now amount _ h drawn
    rw [Throttle.draw?_eq h.wellFormed] at drawn
    split at drawn
    · rename_i room
      cases drawn
      exact ⟨Bucket.claim_wellFormed h.wellFormed room.2, h.unitsPerAmount⟩
    · cases drawn
  revoke := fun h amount => ⟨Bucket.revoke_wellFormed h.wellFormed _, h.unitsPerAmount⟩
  rollback := fun h => ⟨Bucket.rollback_wellFormed h.wellFormed, h.unitsPerAmount⟩
  refund := fun h amount => ⟨Bucket.refund_wellFormed h.wellFormed _, h.unitsPerAmount⟩
  restore := fun _ h => ⟨Bucket.restore_wellFormed h.wellFormed _ _, h.unitsPerAmount⟩
  compiled := fun compiled =>
    ⟨BucketDefinition.wellFormed_of_compile compiled, fun other => absurd rfl other⟩
  perSecond := fun _ rate burstSeconds =>
    ⟨Throttle.perSecond_wellFormed _ rate burstSeconds, fun _ => rfl⟩

theorem Gate.Reached.sound {allowed : Call → Prop} (reached : g.Reached allowed) :
    g.Each Throttle.Sound :=
  Gate.Reached.each .sound (reached.imp fun _ _ => ⟨fun _ _ => trivial, fun _ _ => trivial⟩)

/-- Along every run, whatever the times, the amounts and the levels restored, the buckets are well
formed and exact, and so are those that further operations make of them, as within a decision. -/
theorem Gate.Reached.buckets_exact {allowed : Call → Prop} (reached : g.Reached allowed) :
    g.Each fun _ t => ∀ ops, (t.bucket.run ops).WellFormed ∧ (t.bucket.run ops).Exact := by
  refine reached.sound.imp fun _ t sound ops => ?_
  have wellFormed := Bucket.run_wellFormed sound.wellFormed ops
  exact ⟨wellFormed, wellFormed.exact⟩

/-- The largest gas throttle there can be, restored full at a time that is not normal. Of the gas
that leaks in five nanoseconds a call draws all but a unit and is denied for lack of a tariff. -/
theorem Gate.Reached.buckets_exact_at_the_limits :
    let config : Config := { contracts := { maxGasPerSec := Word.max64 } }
    let full : Snapshot := ⟨Word.max64, some ⟨5, 4000000000⟩⟩
    let txn := Transaction.ofBody (.ofNumber 5000) ⟨none, .contractCall 92233720367⟩ 200
    let g := (Gate.new .ingest).run [.applyGas config, .restore ⟨[], some full, none⟩,
      .transaction config Ledger.empty.view txn ⟨5, 4000000005⟩]
    g.gas.map (fun t => (t.bucket.capacity, t.bucket.used, t.bucket.carry)) =
        some (Word.max64, Word.max64 - 92233720368, 547758075) ∧
      g.Each fun _ t => ∀ ops, (t.bucket.run ops).WellFormed ∧ (t.bucket.run ops).Exact := by
  intro config full txn g
  have reached : g.Reached fun _ => True := ⟨.ingest, _, fun _ _ => trivial, rfl⟩
  exact ⟨by decide, reached.buckets_exact⟩

/-! ## Normal decision times -/

structure Throttle.NormalTime (t : Throttle) : Prop where
  wellFormed : t.bucket.WellFormed
  normal : t.bucket.NormalTime

def Invariant.timed : Invariant where
  holds := fun _ => Throttle.NormalTime
  times := Timestamp.Normal
  stored := Snapshot.Normal
  commit := fun h => ⟨Bucket.commit_wellFormed h.wellFormed, h.normal⟩
  draw? := by
    intro _ t t' now amount time h drawn
    rw [Throttle.draw?_eq h.wellFormed] at drawn
    split at drawn
    · rename_i room
      cases drawn
      exact ⟨Bucket.claim_wellFormed h.wellFormed room.2,
        Bucket.claim_normalTime h.wellFormed h.normal time _⟩
    · cases drawn
  revoke := fun h amount => ⟨Bucket.revoke_wellFormed h.wellFormed _, h.normal⟩
  rollback := fun h => ⟨Bucket.rollback_wellFormed h.wellFormed, h.normal⟩
  refund := fun h amount => ⟨Bucket.refund_wellFormed h.wellFormed _, h.normal⟩
  restore := fun stored h => ⟨Bucket.restore_wellFormed h.wellFormed _ _, stored⟩
  compiled := by
    intro definition split bucket compiled
    refine ⟨BucketDefinition.wellFormed_of_compile compiled, Bucket.normalTime_of_untimed ?_⟩
    obtain ⟨_, steps⟩ := BucketDefinition.compiles_of_compile compiled
    rw [(Throttle.operations_eq_ok steps.throttle).2]
    rfl
  perSecond := fun _ rate burstSeconds =>
    ⟨Throttle.perSecond_wellFormed _ rate burstSeconds, Bucket.normalTime_of_untimed rfl⟩

theorem Gate.Reached.timed (reached : g.Reached Call.Normal) :
    g.Each fun _ => Throttle.NormalTime := Gate.Reached.each .timed reached

end Throttling
