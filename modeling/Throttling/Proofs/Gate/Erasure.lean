import Throttling.Proofs.Bucket.Alike
import Throttling.Proofs.Gate.Denial

/-!
# Denied decisions leave no trace

A denied decision hands back what it drew, but its draws have leaked the throttles up to its
instant. That shows in the stored state and in nothing else: no later decision tells a throttle from
the same throttle leaked up to an earlier instant. The exception are units held without a decision
time, which only a restored level can bring about: they never leak until some draw starts the clock,
and handing the draw back does not stop it again. `denial_leaves_no_trace_iff` is the exact
statement, for every gate that normal calls lead to and for seconds without a bound.
-/

set_option autoImplicit false

namespace Throttling

/-! ## Throttles that no later call tells apart -/

/-- Well-formed throttles with buckets that are alike from `now` on. -/
structure Throttle.Alike (now : Timestamp) (a b : Throttle) : Prop where
  left : a.bucket.WellFormed
  right : b.bucket.WellFormed
  unitsPerAmount : a.unitsPerAmount = b.unitsPerAmount
  bucket : a.bucket.Alike now b.bucket

/-- Throttles alike within a decision: the same units are provisional, on the same level if there
are any. -/
structure Throttle.AlikeWithin (now : Timestamp) (a b : Throttle) : Prop
    extends Throttle.Alike now a b where
  provisional : a.bucket.provisional = b.bucket.provisional
  used : b.bucket.provisional = 0 ∨ a.bucket.used = b.bucket.used

namespace Throttle.Alike

variable {now t : Timestamp} {a b : Throttle}

theorem refl {now : Timestamp} {t : Throttle} (w : t.bucket.WellFormed) : t.Alike now t :=
  ⟨w, w, rfl, Bucket.Alike.refl now t.bucket⟩

theorem units_eq (alike : a.Alike now b) (amount : Nat) : a.units amount = b.units amount := by
  rw [Throttle.units, alike.unitsPerAmount, Throttle.units]

theorem commit (alike : a.Alike now b) : a.commit.AlikeWithin now b.commit where
  left := Bucket.commit_wellFormed alike.left
  right := Bucket.commit_wellFormed alike.right
  unitsPerAmount := alike.unitsPerAmount
  bucket := alike.bucket.commit
  provisional := rfl
  used := Or.inl rfl

/-- The same amount released, whatever then counts as provisional. -/
theorem refund (alike : a.Alike now b) (amount : Nat) :
    (a.refund amount).Alike now (b.refund amount) where
  left := Bucket.refund_wellFormed alike.left _
  right := Bucket.refund_wellFormed alike.right _
  unitsPerAmount := alike.unitsPerAmount
  bucket := by
    have released := alike.bucket.release alike.left alike.right (b.units amount)
      (min a.bucket.provisional (a.bucket.release (b.units amount)).used)
      (min b.bucket.provisional (b.bucket.release (b.units amount)).used)
    rw [Throttle.refund, alike.units_eq]
    exact released

theorem restore (alike : a.Alike now b) (s : Snapshot) :
    (a.restore s).Alike now (b.restore s) where
  left := Bucket.restore_wellFormed alike.left _ _
  right := Bucket.restore_wellFormed alike.right _ _
  unitsPerAmount := alike.unitsPerAmount
  bucket := by
    rw [Throttle.restore, alike.bucket.restore_eq]
    exact Bucket.Alike.refl now _

end Throttle.Alike

namespace Throttle.AlikeWithin

variable {now t : Timestamp} {a b : Throttle}

theorem draw? (alike : a.AlikeWithin now b) (normal : t.Normal) (later : now ≤ t) (amount : Nat) :
    Option.Rel (Throttle.AlikeWithin now) (a.draw? t amount) (b.draw? t amount) := by
  have capacity : a.capacity = b.capacity := alike.bucket.capacity
  have free : a.free t = b.free t := alike.bucket.free normal later
  have level := alike.bucket.level t normal later
  have units := alike.units_eq amount
  rw [Throttle.draw?_eq alike.left, Throttle.draw?_eq alike.right, capacity, free, units]
  split
  · rename_i room
    have room' : b.units amount ≤ a.free t := by
      rw [free]
      exact room.2
    exact .some
      { left := Bucket.claim_wellFormed alike.left room'
        right := Bucket.claim_wellFormed alike.right room.2
        unitsPerAmount := alike.unitsPerAmount
        bucket := alike.bucket.claim normal later _
        provisional := Bucket.claim_provisional_eq alike.bucket alike.provisional normal later _
        used := Or.inr (by simp only [Throttle.claim, Bucket.claim, level]) }
  · exact .none

theorem revoke (alike : a.AlikeWithin now b) (amount : Nat) :
    (a.revoke amount).AlikeWithin now (b.revoke amount) where
  left := Bucket.revoke_wellFormed alike.left _
  right := Bucket.revoke_wellFormed alike.right _
  unitsPerAmount := alike.unitsPerAmount
  bucket := by
    have released := alike.bucket.release alike.left alike.right (b.units amount)
      (a.bucket.provisional - min (b.units amount) a.bucket.used)
      (b.bucket.provisional - min (b.units amount) b.bucket.used)
    rw [Throttle.revoke, alike.units_eq]
    exact released
  provisional := by
    simp only [Throttle.revoke, Bucket.revoke, alike.units_eq, alike.provisional]
    rcases alike.used with none | used
    · rw [none, Nat.zero_sub, Nat.zero_sub]
    · rw [used]
  used := by
    simp only [Throttle.revoke, Bucket.revoke, Bucket.release, alike.units_eq]
    rcases alike.used with none | used
    · exact Or.inl (by rw [none, Nat.zero_sub])
    · exact Or.inr (by rw [used])

theorem rollback (alike : a.AlikeWithin now b) : a.rollback.AlikeWithin now b.rollback where
  left := Bucket.rollback_wellFormed alike.left
  right := Bucket.rollback_wellFormed alike.right
  unitsPerAmount := alike.unitsPerAmount
  bucket := by
    have released := alike.bucket.release alike.left alike.right b.bucket.provisional 0 0
    rw [Throttle.rollback, Bucket.rollback, alike.provisional]
    exact released
  provisional := rfl
  used := Or.inl rfl

end Throttle.AlikeWithin

/-- Likeness from `now` on, kept by calls whose decisions are not made before. -/
def Coupling.alike (now : Timestamp) : Coupling where
  between := fun _ => Throttle.Alike now
  within := fun _ => Throttle.AlikeWithin now
  times := fun t => t.Normal ∧ now ≤ t
  stored := fun _ => True
  settle := fun alike => alike.toAlike
  commit := fun alike => alike.commit
  draw? := fun time alike amount => alike.draw? time.1 time.2 amount
  revoke := fun alike amount => alike.revoke amount
  rollback := fun alike => alike.rollback
  refund := fun alike amount => alike.refund amount
  restore := fun _ alike => alike.restore _
  compiled := fun compiled => .refl (BucketDefinition.wellFormed_of_compile compiled)
  perSecond := fun _ rate burstSeconds => .refl (Throttle.perSecond_wellFormed _ rate burstSeconds)

/-! ## Settled throttles -/

/-- A throttle that holds units without a decision time is left without one. -/
def Throttle.KeepsClock (t t' : Throttle) : Prop :=
  t.bucket.lastDecision = none → t.bucket.used ≠ 0 → t'.bucket.lastDecision = none

namespace Throttle

variable {now : Timestamp} {t t' : Throttle}

/-- A settled throttle is alike to the one before, unless its clock was started. -/
theorem Settled.alike (settled : t.Settled now t') (own : t.NormalTime) (normal : now.Normal)
    (keeps : t.KeepsClock t') : t.Alike now t' := by
  have committed := Bucket.commit_wellFormed own.wellFormed
  have same := (Bucket.alike_commit now t.bucket).symm
  rcases settled with rfl | rfl | rfl
  · exact .refl own.wellFormed
  · exact ⟨own.wellFormed, committed, rfl, same⟩
  · have timed : t.bucket.commit.Timed := by
      intro untimed
      by_contra inUse
      cases keeps untimed inUse
    have leaked := (Bucket.alike_claim_zero committed own.normal normal timed).symm
    exact ⟨own.wellFormed, Bucket.claim_wellFormed committed (Nat.zero_le _), rfl,
      same.trans leaked⟩

/-- Where the clock was started the free units differ at some later time. -/
theorem Settled.keepsClock_of_free_eq (settled : t.Settled now t') (own : t.NormalTime)
    (normal : now.Normal)
    (free : ∀ s : Timestamp, s.Normal → now ≤ s → t.free s = t'.free s) : t.KeepsClock t' := by
  intro untimed inUse
  rcases settled with rfl | rfl | rfl
  · exact untimed
  · exact untimed
  · have committed := Bucket.commit_wellFormed own.wellFormed
    obtain ⟨s, later, after, differ⟩ :=
      Bucket.exists_free_claim_zero_ne committed normal untimed inUse
    exact absurd (free s later after).symm differ

end Throttle

/-! ## Gates -/

namespace Gate

structure Free where
  operations : List Nat
  gas : Option Nat
  bytes : Option Nat
  opsDuration : Option Nat
  deriving DecidableEq, Repr

def freeAt (g : Gate) (t : Timestamp) : Free where
  operations := g.operations.throttles.map (·.free t)
  gas := g.gas.map (·.free t)
  bytes := g.bytes.map (·.free t)
  opsDuration := g.opsDuration.map (·.free t)

/-- From `now` on both gates have the same units free, and give the same replies to all runs of
normal calls: the same verdicts, usages, errors and events. -/
structure Indistinguishable (now : Timestamp) (g h : Gate) : Prop where
  free : ∀ t : Timestamp, t.Normal → now ≤ t → g.freeAt t = h.freeAt t
  replies : ∀ later : List Call, (∀ c ∈ later, c.Normal ∧ c.NotBefore now) →
    g.replies later = h.replies later

end Gate

section Gates

variable {R : ResourceKind → Throttle → Throttle → Prop} {g h : Gate} {now t : Timestamp}

theorem freeAt_eq_of_related (related : g.Related R h)
    (free : ∀ kind a b, R kind a b → a.free t = b.free t) : g.freeAt t = h.freeAt t := by
  have option {kind : ResourceKind} {x y : Option Throttle} (same : Option.Rel (R kind) x y) :
      x.map (·.free t) = y.map (·.free t) := by
    cases same with
    | none => rfl
    | some own => exact congrArg some (free kind _ _ own)
  have operations := forall₂_map (free .operations) related.operations.throttles
  rw [List.forall₂_eq_eq_eq] at operations
  simp only [Gate.freeAt, operations, option related.gas, option related.bytes,
    option related.opsDuration]

/-- Gates with the same units free at some times have them throttle by throttle. -/
theorem related_free_of_freeAt_eq {T : Timestamp → Prop} (related : g.Related R h)
    (free : ∀ t, T t → g.freeAt t = h.freeAt t) :
    g.Related (fun kind a b => R kind a b ∧ ∀ t, T t → a.free t = b.free t) h := by
  have option {kind : ResourceKind} {x y : Option Throttle} (same : Option.Rel (R kind) x y)
      (all : ∀ t, T t → x.map (·.free t) = y.map (·.free t)) :
      Option.Rel (fun a b => R kind a b ∧ ∀ t, T t → a.free t = b.free t) x y := by
    cases same with
    | none => exact .none
    | some own => exact .some ⟨own, fun t time => Option.some.inj (all t time)⟩
  have list {xs ys : List Throttle} (same : List.Forall₂ (R .operations) xs ys)
      (all : ∀ t, T t → xs.map (·.free t) = ys.map (·.free t)) :
      List.Forall₂ (fun a b => R .operations a b ∧ ∀ t, T t → a.free t = b.free t) xs ys := by
    induction same with
    | nil => exact .nil
    | cons head tail ih =>
      have heads := fun t time => (List.cons.inj (all t time)).1
      exact .cons ⟨head, heads⟩ (ih fun t time => (List.cons.inj (all t time)).2)
  exact
    { related with
      operations :=
        { related.operations with
          throttles := list related.operations.throttles fun t time =>
            congrArg Gate.Free.operations (free t time) }
      gas := option related.gas fun t time => congrArg Gate.Free.gas (free t time)
      bytes := option related.bytes fun t time => congrArg Gate.Free.bytes (free t time)
      opsDuration := option related.opsDuration fun t time =>
        congrArg Gate.Free.opsDuration (free t time) }

/-- Gates that are alike from `now` on cannot be told apart. -/
theorem indistinguishable_of_alike (alike : g.Related (fun _ => Throttle.Alike now) h) :
    g.Indistinguishable now h where
  free := fun t normal later =>
    freeAt_eq_of_related alike fun _ _ _ own => own.bucket.free normal later
  replies := by
    intro later allowed
    refine replies_eq_of_related (C := .alike now) (fun c member => ⟨?_, fun _ _ => trivial⟩) alike
    intro t time
    exact ⟨(allowed c member).1.time t time, (allowed c member).2 t time⟩

end Gates

section Denials

variable {g : Gate} {call : Call} {now : Timestamp}

private theorem normalTime_settled (reached : g.Reached Call.Normal) (time : call.time? = some now)
    (denied : (g.call call).result.denies = true) :
    g.Related (fun _ a b => a.NormalTime ∧ a.Settled now b) (g.call call).gate := by
  have own : g.Related (fun _ a b => a = b ∧ a.NormalTime) g :=
    reached.timed.related fun _ _ own => ⟨rfl, own⟩
  refine own.comp (fun _ a b c same settled => ?_) (call_denied reached.wellFormed time denied).1
  obtain ⟨rfl, timed⟩ := same
  exact ⟨timed, settled⟩

private theorem indistinguishable_of_keepsClock (reached : g.Reached Call.Normal)
    (time : call.time? = some now) (normal : now.Normal)
    (denied : (g.call call).result.denies = true)
    (keeps : g.Related (fun _ => Throttle.KeepsClock) (g.call call).gate) :
    g.Indistinguishable now (g.call call).gate :=
  indistinguishable_of_alike
    (((normalTime_settled reached time denied).and keeps).imp fun _ _ _ each =>
      each.1.2.alike each.1.1 normal each.2)

private theorem keepsClock_of_timed (w : g.WellFormed) (time : call.time? = some now)
    (denied : (g.call call).result.denies = true) (timed : g.Each fun _ t => t.bucket.Timed) :
    g.Related (fun _ => Throttle.KeepsClock) (g.call call).gate := by
  have own : g.Related (fun _ a b => a = b ∧ a.bucket.Timed) g :=
    timed.related fun _ _ timed => ⟨rfl, timed⟩
  refine own.comp (fun _ a b c same _ untimed inUse => ?_) (call_denied w time denied).1
  exact absurd (same.2 untimed) inUse

/-- A stored level that is in use has a decision time. -/
def Snapshot.Timed (s : Snapshot) : Prop := s.lastDecision = none → s.used = 0

/-- Units without a decision time come from restored levels only. -/
def Invariant.clocked : Invariant where
  holds := fun _ t => t.bucket.WellFormed ∧ t.bucket.Timed
  times := Timestamp.Normal
  stored := fun s => s.Normal ∧ s.Timed
  commit := fun h => ⟨Bucket.commit_wellFormed h.1, h.2⟩
  draw? := by
    intro _ t t' now amount _ h drawn
    rw [Throttle.draw?_eq h.1] at drawn
    split at drawn
    · rename_i room
      cases drawn
      exact ⟨Bucket.claim_wellFormed h.1 room.2, fun untimed => by cases untimed⟩
    · cases drawn
  revoke := fun h amount =>
    ⟨Bucket.revoke_wellFormed h.1 _, fun untimed => Nat.sub_eq_zero_of_le (by simp [h.2 untimed])⟩
  rollback := fun h =>
    ⟨Bucket.rollback_wellFormed h.1, fun untimed => Nat.sub_eq_zero_of_le (by simp [h.2 untimed])⟩
  refund := fun h amount =>
    ⟨Bucket.refund_wellFormed h.1 _, fun untimed => Nat.sub_eq_zero_of_le (by simp [h.2 untimed])⟩
  restore := fun stored h =>
    ⟨Bucket.restore_wellFormed h.1 _ _, fun untimed => by
      simp [Throttle.restore, Bucket.restore, stored.2 untimed]⟩
  compiled := by
    intro definition split bucket compiled
    refine ⟨BucketDefinition.wellFormed_of_compile compiled, fun _ => ?_⟩
    obtain ⟨_, steps⟩ := BucketDefinition.compiles_of_compile compiled
    rw [(Throttle.operations_eq_ok steps.throttle).2]
    rfl
  perSecond := fun _ rate burstSeconds =>
    ⟨Throttle.perSecond_wellFormed _ rate burstSeconds, fun _ => rfl⟩

/-- As long as restored levels in use have a decision time, a denied call leaves no trace. -/
theorem denial_leaves_no_trace
    (reached : g.Reached (·.Allowed Timestamp.Normal fun s => s.Normal ∧ s.Timed))
    (time : call.time? = some now) (normal : now.Normal)
    (denied : (g.call call).result.denies = true) :
    (g.call call).result.usages = [] ∧ g.Indistinguishable now (g.call call).gate := by
  have timed : g.Each fun _ t => t.bucket.Timed :=
    (Gate.Reached.each .clocked reached).imp fun _ _ h => h.2
  have reachedNormal : g.Reached Call.Normal :=
    reached.imp fun _ allowed => ⟨allowed.time, fun s level => (allowed.levels s level).1⟩
  have keeps := keepsClock_of_timed reached.wellFormed time denied timed
  exact ⟨(call_denied reached.wellFormed time denied).2,
    indistinguishable_of_keepsClock reachedNormal time normal denied keeps⟩

/-- A denied call on a gate that normal calls lead to records no usage, and the gate after it cannot
be told from the gate before exactly if no throttle that held units without a decision time was
given one. That the condition is needed rests on seconds being unbounded: a normal time comes after
any other. -/
theorem denial_leaves_no_trace_iff (reached : g.Reached Call.Normal)
    (time : call.time? = some now) (normal : now.Normal)
    (denied : (g.call call).result.denies = true) :
    (g.call call).result.usages = [] ∧
      (g.Indistinguishable now (g.call call).gate ↔
        g.Related (fun _ => Throttle.KeepsClock) (g.call call).gate) := by
  refine ⟨(call_denied reached.wellFormed time denied).2, fun same => ?_, fun keeps => ?_⟩
  · have free := related_free_of_freeAt_eq (T := fun t => t.Normal ∧ now ≤ t)
      (normalTime_settled reached time denied) fun t time => same.free t time.1 time.2
    exact free.imp fun _ a b each =>
      each.1.2.keepsClock_of_free_eq each.1.1 normal fun s normal later => each.2 s ⟨normal, later⟩
  · exact indistinguishable_of_keepsClock reached time normal denied keeps

end Denials

/-- Gas in use was restored with its decision time, and a call that draws gas is denied for lack of
a tariff. -/
theorem denial_leaves_no_trace_on_timed_gas :
    let config : Config := { contracts := { maxGasPerSec := 10 } }
    let g := (Gate.new .ingest).run [.applyGas config, .restore ⟨[], some ⟨9, some ⟨99, 0⟩⟩, none⟩]
    let txn := Transaction.ofBody (.ofNumber 5000) ⟨none, .contractCall 1⟩ 200
    let call : Call := .transaction config Ledger.empty.view txn ⟨99, 500000000⟩
    g.Reached Call.Normal ∧ (g.call call).result = .decided ⟨.throttled, []⟩ ∧
      g.Indistinguishable ⟨99, 500000000⟩ (g.call call).gate := by
  intro config g txn call
  have reached : g.Reached Call.Normal := ⟨.ingest, _, by decide, rfl⟩
  have result : (g.call call).result = .decided ⟨.throttled, []⟩ := by decide
  have traceless := @denial_leaves_no_trace_iff _ call _ reached rfl (by decide) (by decide)
  refine ⟨reached, result, traceless.2.mpr ?_⟩
  have timed : g.Each fun _ t => t.bucket.Timed :=
    ⟨by decide, by decide, by decide, by decide⟩
  exact keepsClock_of_timed reached.wellFormed rfl (by decide) timed

/-- Gas in use was restored without a decision time. A call that draws gas and is then denied starts
the clock of the gas throttle, so a later query finds gas that would not be there. -/
theorem denial_can_leave_a_trace :
    ¬ ∀ {g : Gate}, g.Reached Call.Normal → g.stage ≠ .passthrough →
      ∀ {call : Call} {now : Timestamp}, call.time? = some now → now.Normal →
        (g.call call).result.denies = true → g.Indistinguishable now (g.call call).gate := by
  intro traceless
  let config : Config := { contracts := { maxGasPerSec := 10 } }
  let before : List Call := [.applyGas config, .restore ⟨[], some ⟨9, none⟩, none⟩]
  let payer := AccountId.ofNumber 5000
  let txn := Transaction.ofBody payer ⟨none, .contractCall 1⟩ 200
  let denied : Call := .transaction config Ledger.empty.view txn ⟨100, 0⟩
  let later : Call :=
    .query config Ledger.empty.view (.contractCallLocal 2) (some payer) ⟨101, 0⟩
  have reached : ((Gate.new .ingest).run before).Reached Call.Normal :=
    ⟨.ingest, before, by decide, rfl⟩
  have same := @traceless _ reached (by decide) denied ⟨100, 0⟩ rfl (by decide) (by decide)
  exact absurd (same.replies [later] (by decide)) (by decide)

end Throttling
