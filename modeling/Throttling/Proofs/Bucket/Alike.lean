import Throttling.Proofs.Bucket.Operations
import Mathlib.Data.Option.Basic

/-!
# Buckets that no later look tells apart

Two buckets are alike from an instant on if they have the same capacity and burst period and show
the same level at every normal time from then on. What they have provisional may differ, and so may
the time up to which they have leaked. Operations at later times keep them alike. A bucket is alike
to itself leaked up to the instant, provided that it does not hold units without a decision time:
such units never leak, and leaking them starts the clock. A decision time that was restored may also
be earlier by its seconds and later by its nanoseconds, and then leaking up to the instant sets the
clock back. Nothing else shows (`free_claim_zero_iff`).
-/

set_option autoImplicit false

namespace Throttling.Bucket

/-- The two buckets show the same levels at all normal times from `now` on. -/
structure Alike (now : Timestamp) (a b : Bucket) : Prop where
  capacity : a.capacity = b.capacity
  burstNanos : a.burstNanos = b.burstNanos
  level : ∀ t : Timestamp, t.Normal → now ≤ t → a.levelAt t = b.levelAt t

variable {a b : Bucket} {now t : Timestamp}

theorem Alike.refl (now : Timestamp) (b : Bucket) : Alike now b b := ⟨rfl, rfl, fun _ _ _ => rfl⟩

/-- What is provisional does not show. -/
theorem alike_commit (now : Timestamp) (b : Bucket) : Alike now b.commit b :=
  ⟨rfl, rfl, fun _ _ _ => rfl⟩

theorem Alike.trans {c : Bucket} (first : Alike now a b) (second : Alike now b c) :
    Alike now a c where
  capacity := first.capacity.trans second.capacity
  burstNanos := first.burstNanos.trans second.burstNanos
  level := fun t normal later => (first.level t normal later).trans (second.level t normal later)

theorem Alike.symm (alike : Alike now a b) : Alike now b a where
  capacity := alike.capacity.symm
  burstNanos := alike.burstNanos.symm
  level := fun t normal later => (alike.level t normal later).symm

theorem Alike.commit (alike : Alike now a b) : Alike now a.commit b.commit :=
  ⟨alike.capacity, alike.burstNanos, alike.level⟩

theorem Alike.free (alike : Alike now a b) (normal : t.Normal) (later : now ≤ t) :
    a.free t = b.free t := by
  simp only [Bucket.free, alike.capacity, alike.level t normal later]

/-- The level is determined by the load and the time. -/
theorem levelAt_eq_of (wa : a.WellFormed) (wb : b.WellFormed) (burst : a.burstNanos = b.burstNanos)
    (load : a.loadAt t = b.loadAt t) (clock : a.clock t = b.clock t) :
    a.levelAt t = b.levelAt t := by
  have specA := levelSpec wa t
  have specB := levelSpec wb t
  have used : (a.levelAt t).used = (b.levelAt t).used := by
    refine eq_of_forall_ge_iff fun n => ?_
    rw [levelAt_used_le_iff wa, levelAt_used_le_iff wb, load, burst]
  have carry : (a.levelAt t).carry = (b.levelAt t).carry := by
    have loadA := specA.load
    rw [used, burst, load, specB.load] at loadA
    exact (Nat.add_left_cancel loadA).symm
  have time : (a.levelAt t).time = (b.levelAt t).time := by rw [specA.time, specB.time, clock]
  calc
    a.levelAt t = ⟨(a.levelAt t).used, (a.levelAt t).carry, (a.levelAt t).time⟩ := rfl
    _ = b.levelAt t := by rw [used, carry, time]

theorem Alike.loadAt (wa : a.WellFormed) (wb : b.WellFormed) (alike : Alike now a b)
    (normal : t.Normal) (later : now ≤ t) : a.loadAt t = b.loadAt t := by
  have loadA := (levelSpec wa t).load
  have loadB := (levelSpec wb t).load
  rw [alike.level t normal later, alike.burstNanos] at loadA
  omega

/-! ## Operations keep buckets alike -/

theorem Alike.claim (alike : Alike now a b) (normal : t.Normal) (later : now ≤ t) (units : Nat) :
    Alike now (a.claim t units) (b.claim t units) := by
  -- apart from what is provisional, the two claims are the same bucket
  have same : a.claim t units =
      { b.claim t units with
        provisional := min a.provisional (b.levelAt t).used + units } := by
    have level := alike.level t normal later
    have capacity := alike.capacity
    have burstNanos := alike.burstNanos
    cases a
    cases b
    simp only at capacity burstNanos
    subst capacity burstNanos
    simp only [Bucket.claim, level]
  rw [same]
  exact ⟨rfl, rfl, fun _ _ _ => rfl⟩

theorem claim_provisional_eq (alike : Alike now a b) (same : a.provisional = b.provisional)
    (normal : t.Normal) (later : now ≤ t) (units : Nat) :
    (a.claim t units).provisional = (b.claim t units).provisional := by
  simp only [Bucket.claim, same, alike.level t normal later]

/-- Releasing the same units keeps buckets alike, whatever then counts as provisional. -/
theorem Alike.release (wa : a.WellFormed) (wb : b.WellFormed) (alike : Alike now a b) (units : Nat)
    (provisionalA provisionalB : Nat) :
    Alike now { a.release units with provisional := provisionalA }
      { b.release units with provisional := provisionalB } := by
  refine ⟨alike.capacity, alike.burstNanos, fun s normal later => ?_⟩
  have released : (a.refund units).levelAt s = (b.refund units).levelAt s := by
    refine levelAt_eq_of (refund_wellFormed wa units) (refund_wellFormed wb units)
      alike.burstNanos ?_ ?_
    · have load := alike.loadAt wa wb normal later
      have loadA : (a.refund units).load = a.load - units * a.burstNanos := load_release wa units
      have loadB : (b.refund units).load = b.load - units * b.burstNanos := load_release wb units
      have elapsedA : (a.refund units).elapsed s = a.elapsed s := rfl
      have elapsedB : (b.refund units).elapsed s = b.elapsed s := rfl
      have capacityA : (a.refund units).capacity = a.capacity := rfl
      have capacityB : (b.refund units).capacity = b.capacity := rfl
      unfold Bucket.loadAt at load ⊢
      rw [loadA, loadB, elapsedA, elapsedB, capacityA, capacityB, alike.burstNanos,
        Nat.sub_right_comm, load, Nat.sub_right_comm]
    · have time : (a.levelAt s).time = (b.levelAt s).time :=
        congrArg Level.time (alike.level s normal later)
      rw [(levelSpec wa s).time, (levelSpec wb s).time] at time
      exact time
  exact released

/-- Restoring a level leaves no difference. -/
theorem Alike.restore_eq (alike : Alike now a b) (used : Nat) (lastDecision : Option Timestamp) :
    a.restore used lastDecision = b.restore used lastDecision := by
  have capacity := alike.capacity
  have burstNanos := alike.burstNanos
  simp only [restore, capacity, burstNanos]

/-! ## Leaking up to an instant -/

/-- The bucket holds no units without a decision time. -/
def Timed (b : Bucket) : Prop := b.lastDecision = none → b.used = 0

instance (b : Bucket) : Decidable b.Timed := inferInstanceAs (Decidable (_ = none → _ = 0))

/-- Nothing is in use, or the bucket has leaked up to a time that does not run ahead of `now`: it is
not before `now`, or not after it in nanoseconds. -/
def Steady (b : Bucket) (now : Timestamp) : Prop :=
  b.used = 0 ∨ ∃ last ∈ b.lastDecision, now ≤ last ∨ last.toNanos ≤ now.toNanos

instance (b : Bucket) (now : Timestamp) : Decidable (b.Steady now) :=
  inferInstanceAs (Decidable (_ ∨ _))

theorem Timed.steady (timed : b.Timed) (times : b.NormalTime) (hn : now.Normal) : b.Steady now := by
  cases decision : b.lastDecision with
  | none => exact Or.inl (timed decision)
  | some last =>
    refine Or.inr ⟨last, decision, ?_⟩
    by_cases past : now ≤ last
    · exact Or.inl past
    · have := mt (Timestamp.le_iff_toNanos_le hn (times last decision)).mpr past
      exact Or.inr (by omega)

theorem clock_claim (w : b.WellFormed) (times : b.NormalTime) (hn : now.Normal) (ht : t.Normal)
    (later : now ≤ t) (units : Nat) : (b.claim now units).clock t = b.clock t := by
  have time := (levelSpec w now).time
  have order := (Timestamp.le_iff_toNanos_le hn ht).mp later
  simp only [clock, claim, time]
  cases timed : b.lastDecision with
  | none =>
    dsimp only
    split
    · rename_i past
      have := (Timestamp.le_iff_toNanos_le ht hn).mp past
      exact Timestamp.eq_of_toNanos_eq hn ht (by omega)
    · rfl
  | some last =>
    have hl := times last timed
    by_cases past : now ≤ last
    · simp only [if_pos past]
    · have := mt (Timestamp.le_iff_toNanos_le hn hl).mpr past
      have beyond : ¬ t ≤ last := by
        rw [Timestamp.le_iff_toNanos_le ht hl]
        omega
      simp only [if_neg past, if_neg beyond]
      split
      · rename_i back
        have := (Timestamp.le_iff_toNanos_le ht hn).mp back
        exact Timestamp.eq_of_toNanos_eq hn ht (by omega)
      · rfl

/-- Leaking in two steps takes as long as leaking in one. -/
theorem elapsed_claim (w : b.WellFormed) (hn : now.Normal) (later : now ≤ t) {last : Timestamp}
    (timed : b.lastDecision = some last) (ordered : now ≤ last ∨ last.toNanos ≤ now.toNanos)
    (units : Nat) : b.elapsed now + (b.claim now units).elapsed t = b.elapsed t := by
  have claimed := lastDecision_claim w now units
  have order := Timestamp.toNanos_le_of_le hn later
  by_cases past : now ≤ last
  · simp only [elapsed, claimed, clock, timed, if_pos past, Nat.zero_add]
  · have beyond : ¬ t ≤ last := fun before => past (Timestamp.le_trans later before)
    have started := ordered.resolve_left past
    simp only [elapsed, claimed, clock, timed, if_neg past, if_neg beyond]
    split
    · rename_i still
      rw [Timestamp.le_antisymm still later, Nat.add_zero]
    · unfold Timestamp.nanosSince
      omega

theorem load_claim_zero (w : b.WellFormed) (now : Timestamp) :
    (b.claim now 0).load = b.loadAt now := by
  rw [load_claim w, Nat.zero_mul, Nat.add_zero]

/-- Leaking a steady bucket up to an instant does not show in the load from then on. -/
theorem loadAt_claim_zero (w : b.WellFormed) (hn : now.Normal) (steady : b.Steady now)
    (later : now ≤ t) : (b.claim now 0).loadAt t = b.loadAt t := by
  have load := load_claim_zero w now
  have capacity : (b.claim now 0).capacity = b.capacity := rfl
  rcases steady with idle | ⟨last, decision, ordered⟩
  · have empty : b.load = 0 := by rw [Bucket.load, idle, Nat.zero_mul, Nat.zero_sub]
    rw [loadAt, loadAt, load, loadAt, empty, Nat.zero_sub, Nat.zero_sub, Nat.zero_sub]
  · rw [loadAt, loadAt, load, loadAt, capacity, Nat.sub_sub, ← Nat.add_mul,
      elapsed_claim w hn later decision ordered]

/-- Leaking up to an instant does not show from then on. -/
theorem alike_claim_zero (w : b.WellFormed) (times : b.NormalTime) (hn : now.Normal)
    (timed : b.Timed) : Alike now (b.claim now 0) b :=
  ⟨rfl, rfl, fun _ ht later =>
    levelAt_eq_of (claim_wellFormed w (Nat.zero_le _)) w rfl
      (loadAt_claim_zero w hn (timed.steady times hn) later) (clock_claim w times hn ht later 0)⟩

/-- Leaking a steady bucket up to an instant does not show in the units free at any time from then
on, normal or not. -/
theorem Steady.free_claim_zero (w : b.WellFormed) (hn : now.Normal) (steady : b.Steady now)
    (later : now ≤ t) : (b.claim now 0).free t = b.free t := by
  have claimed : (b.claim now 0).WellFormed := claim_wellFormed w (Nat.zero_le _)
  have used : ((b.claim now 0).levelAt t).used = (b.levelAt t).used := by
    refine eq_of_forall_ge_iff fun n => ?_
    rw [levelAt_used_le_iff claimed, levelAt_used_le_iff w, loadAt_claim_zero w hn steady later]
    rfl
  exact congrArg (b.capacity - ·) used

/-- Leaking up to an instant does not show in the units free from then on, unless it starts the
clock. -/
theorem free_claim_zero (w : b.WellFormed) (times : b.NormalTime) (hn : now.Normal)
    (timed : b.Timed) (later : now ≤ t) : (b.claim now 0).free t = b.free t :=
  (timed.steady times hn).free_claim_zero w hn later

/-- A whole burst period empties a bucket. -/
theorem levelAt_used_of_burst (w : b.WellFormed) (times : b.NormalTime) (normal : t.Normal)
    {last : Timestamp} (timed : b.lastDecision = some last)
    (burst : b.burstNanos ≤ t.nanosSince last) : (b.levelAt t).used = 0 := by
  have drained : b.load ≤ t.nanosSince last * b.capacity :=
    calc
      b.load ≤ b.capacity * b.burstNanos := load_le w
      _ = b.burstNanos * b.capacity := Nat.mul_comm _ _
      _ ≤ t.nanosSince last * b.capacity := Nat.mul_le_mul_right _ burst
  rw [levelAt_used_eq_zero_iff w, loadAt, elapsed_of_timed timed times normal]
  exact Nat.sub_eq_zero_of_le drained

/-! ## Buckets that are not steady -/

/-- Leaking up to an instant shows at a time when it makes the difference to an empty bucket. -/
private theorem free_claim_zero_ne (w : b.WellFormed)
    (emptied : ((b.claim now 0).levelAt t).used = 0) (kept : (b.levelAt t).used ≠ 0) :
    (b.claim now 0).free t ≠ b.free t := by
  have capacity : (b.claim now 0).capacity = b.capacity := rfl
  have := levelAt_used_le_capacity w t
  unfold free
  rw [emptied, capacity]
  omega

/-- Units held without a decision time start to leak when the bucket is leaked up to an instant. -/
theorem exists_free_claim_zero_ne (w : b.WellFormed) (hn : now.Normal)
    (untimed : b.lastDecision = none) (inUse : b.used ≠ 0) :
    ∃ t : Timestamp, t.Normal ∧ now ≤ t ∧ (b.claim now 0).free t ≠ b.free t := by
  obtain ⟨next, hnext, span⟩ := Timestamp.exists_later now b.burstNanos
  have later : now ≤ next := (Timestamp.le_iff_toNanos_le hn hnext).mpr (by omega)
  have burst : b.burstNanos ≤ next.nanosSince now := by
    unfold Timestamp.nanosSince
    omega
  have decision : (b.claim now 0).lastDecision = some now := by
    simp only [claim, levelAt, untimed]
  have times : b.NormalTime := normalTime_of_untimed untimed
  have emptied : ((b.claim now 0).levelAt next).used = 0 :=
    levelAt_used_of_burst (claim_wellFormed w (Nat.zero_le _)) (claim_normalTime w times hn 0)
      hnext decision burst
  have still : (b.levelAt next).used = b.used := by simp only [levelAt, untimed]
  refine ⟨next, hnext, later, free_claim_zero_ne w emptied ?_⟩
  rw [still]
  exact inUse

private theorem load_pos (w : b.WellFormed) (inUse : b.used ≠ 0) : 0 < b.load := by
  have whole := Nat.le_mul_of_pos_left b.burstNanos (Nat.pos_of_ne_zero inUse)
  have fraction := w.carry_lt
  unfold load
  omega

/-- A bucket in use leaks for some whole nanoseconds before the one that empties it. -/
private theorem exists_last_loaded (w : b.WellFormed) (inUse : b.used ≠ 0) :
    ∃ nanos, nanos * b.capacity < b.load ∧ b.load ≤ (nanos + 1) * b.capacity := by
  have capacity : 0 < b.capacity := Nat.lt_of_lt_of_le (Nat.pos_of_ne_zero inUse) w.used_le
  have load := load_pos w inUse
  have below := Nat.div_mul_le_self (b.load - 1) b.capacity
  have above := Nat.lt_div_mul_add (a := b.load - 1) capacity
  refine ⟨(b.load - 1) / b.capacity, by omega, ?_⟩
  rw [Nat.succ_mul]
  omega

/-- Units with a decision time that is before `now` but ahead of it in nanoseconds leak earlier when
the bucket is leaked up to `now`. -/
theorem exists_free_claim_zero_ne_of_ahead (w : b.WellFormed) (hn : now.Normal)
    (inUse : b.used ≠ 0) {last : Timestamp} (timed : b.lastDecision = some last)
    (before : ¬ now ≤ last) (ahead : now.toNanos < last.toNanos) :
    ∃ t : Timestamp, t.Normal ∧ now ≤ t ∧ (b.claim now 0).free t ≠ b.free t := by
  obtain ⟨nanos, below, above⟩ := exists_last_loaded w inUse
  obtain ⟨t, ht, span⟩ := Timestamp.exists_later last nanos
  have later : now ≤ t := (Timestamp.le_iff_toNanos_le hn ht).mpr (by omega)
  have kept : b.loadAt t ≠ 0 := by
    have elapsed : b.elapsed t ≤ nanos := by
      simp only [elapsed, timed]
      split
      · exact Nat.zero_le _
      · unfold Timestamp.nanosSince
        omega
    have leaked := Nat.mul_le_mul_right b.capacity elapsed
    unfold loadAt
    omega
  have emptied : (b.claim now 0).loadAt t = 0 := by
    have clock : b.clock now = now := by simp only [Bucket.clock, timed, if_neg before]
    have elapsed : nanos + 1 ≤ (b.claim now 0).elapsed t := by
      have beyond : ¬ t ≤ now := by
        rw [Timestamp.le_iff_toNanos_le ht hn]
        omega
      simp only [Bucket.elapsed, lastDecision_claim w, clock, if_neg beyond]
      unfold Timestamp.nanosSince
      omega
    rw [loadAt, load_claim_zero w]
    exact Nat.sub_eq_zero_of_le <|
      calc
        b.loadAt now ≤ b.load := loadAt_le_load b now
        _ ≤ (nanos + 1) * b.capacity := above
        _ ≤ (b.claim now 0).elapsed t * b.capacity := Nat.mul_le_mul_right _ elapsed
  have claimed : (b.claim now 0).WellFormed := claim_wellFormed w (Nat.zero_le _)
  exact ⟨t, ht, later, free_claim_zero_ne w ((levelAt_used_eq_zero_iff claimed t).mpr emptied)
    (mt (levelAt_used_eq_zero_iff w t).mp kept)⟩

/-- Leaking up to an instant does not show in what is free from then on, exactly if the bucket is
steady. -/
theorem free_claim_zero_iff (w : b.WellFormed) (hn : now.Normal) :
    (∀ t, now ≤ t → (b.claim now 0).free t = b.free t) ↔ b.Steady now := by
  refine ⟨fun same => ?_, fun steady t later => steady.free_claim_zero w hn later⟩
  by_contra unsteady
  obtain ⟨inUse, running⟩ := not_or.mp unsteady
  obtain ⟨t, -, later, differs⟩ :
      ∃ t : Timestamp, t.Normal ∧ now ≤ t ∧ (b.claim now 0).free t ≠ b.free t := by
    cases decision : b.lastDecision with
    | none => exact exists_free_claim_zero_ne w hn decision inUse
    | some last =>
      obtain ⟨before, ahead⟩ := not_or.mp fun ordered => running ⟨last, decision, ordered⟩
      exact exists_free_claim_zero_ne_of_ahead w hn inUse decision before (Int.not_le.mp ahead)
  exact differs (same t later)

end Throttling.Bucket
