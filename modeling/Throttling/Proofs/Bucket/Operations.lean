import Throttling.Proofs.Bucket.Load

/-!
# What the operations of a bucket do

One statement for each operation: that it keeps the bucket well formed, and what it does to the
load. A draw that is granted leaves the bucket in the state `claim`: leaked up to the instant, with
the units on top and provisional. Further draws and revocations at the same instant only change the
number of units claimed.
-/

set_option autoImplicit false

namespace Throttling.Bucket

/-- The bucket leaked up to `now`, with `units` on top of what is then in use. -/
def claim (b : Bucket) (now : Timestamp) (units : Nat) : Bucket :=
  { b with
    used := (b.levelAt now).used + units
    carry := (b.levelAt now).carry
    lastDecision := some (b.levelAt now).time
    provisional := min b.provisional (b.levelAt now).used + units }

variable {b : Bucket}

theorem le_levelAt_time (b : Bucket) (now : Timestamp) : now ≤ (b.levelAt now).time := by
  unfold levelAt
  split
  · exact Timestamp.le_refl now
  · split
    · assumption
    · dsimp only
      split
      · exact Timestamp.le_refl now
      · split <;> exact Timestamp.le_refl now

theorem levelAt_used_le_capacity (w : b.WellFormed) (now : Timestamp) :
    (b.levelAt now).used ≤ b.capacity :=
  Nat.le_trans (levelSpec w now).used_le w.used_le

theorem used_le_iff (w : b.WellFormed) (n : Nat) : b.used ≤ n ↔ b.load ≤ n * b.burstNanos := by
  have whole := load_add_carry w
  have fraction := w.carry_lt
  constructor
  · intro h
    have := Nat.mul_le_mul_right b.burstNanos h
    omega
  · intro h
    by_contra above
    have := Nat.mul_le_mul_right b.burstNanos (Nat.lt_of_not_le above)
    rw [Nat.succ_mul] at this
    omega

/-- The units in use after a leak are the leaked load rounded up. -/
theorem levelAt_used_le_iff (w : b.WellFormed) (now : Timestamp) (n : Nat) :
    (b.levelAt now).used ≤ n ↔ b.loadAt now ≤ n * b.burstNanos := by
  have spec := levelSpec w now
  have whole := spec.load
  have fraction := spec.carry_lt
  constructor
  · intro h
    have := Nat.mul_le_mul_right b.burstNanos h
    omega
  · intro h
    by_contra above
    have := Nat.mul_le_mul_right b.burstNanos (Nat.lt_of_not_le above)
    rw [Nat.succ_mul] at this
    omega

/-- A leak empties the bucket exactly if it takes off all of the load. -/
theorem levelAt_used_eq_zero_iff (w : b.WellFormed) (now : Timestamp) :
    (b.levelAt now).used = 0 ↔ b.loadAt now = 0 := by
  rw [← Nat.le_zero, levelAt_used_le_iff w, Nat.zero_mul, Nat.le_zero]

theorem le_free_iff (w : b.WellFormed) (now : Timestamp) (units : Nat) :
    units ≤ b.free now ↔ (b.levelAt now).used + units ≤ b.capacity := by
  have := levelAt_used_le_capacity w now
  unfold free
  omega

/-- Units on top of a level leave its fraction alone, also where there are none. -/
private theorem carry_of_claimed (w : b.WellFormed) (now : Timestamp) (units : Nat) :
    (if (b.levelAt now).used + units = 0 then 0 else (b.levelAt now).carry) =
      (b.levelAt now).carry := by
  split
  · rename_i empty
    exact ((levelSpec w now).carry_of_empty (Nat.eq_zero_of_add_eq_zero_right empty)).symm
  · rfl

/-! ## Claims -/

theorem claim_wellFormed (w : b.WellFormed) {now : Timestamp} {units : Nat}
    (fits : units ≤ b.free now) : (b.claim now units).WellFormed where
  burst_pos := w.burst_pos
  burst_le := w.burst_le
  capacity_le := w.capacity_le
  used_le := (le_free_iff w now units).mp fits
  provisional_le := Nat.add_le_add_right (Nat.min_le_right _ _) _
  carry_lt := (levelSpec w now).carry_lt
  carry_of_empty := fun empty =>
    (levelSpec w now).carry_of_empty (Nat.eq_zero_of_add_eq_zero_right empty)
  carry_of_untimed := fun untimed => by cases untimed

/-- A draw is granted exactly if the units are free, and then claims them. -/
theorem draw?_eq (w : b.WellFormed) (now : Timestamp) (units : Nat) :
    b.draw? now units =
      if b.capacity ≠ 0 ∧ units ≤ b.free now then some (b.claim now units) else none := by
  unfold draw?
  by_cases empty : b.capacity = 0
  · simp [empty]
  rw [if_neg empty]
  by_cases fits : (b.levelAt now).used + units ≤ b.capacity
  · have free := (le_free_iff w now units).mpr fits
    have provisional : Word.saturate64 (min b.provisional (b.levelAt now).used + units) =
        min b.provisional (b.levelAt now).used + units := by
      apply Word.saturate64_of_le
      have := w.capacity_le
      omega
    simp only [fits, if_true, carry_of_claimed w, provisional]
    rw [if_pos ⟨empty, free⟩, claim]
  · have full : ¬ units ≤ b.free now := fun h => fits ((le_free_iff w now units).mp h)
    simp [fits, full]

theorem levelAt_of_le {last now : Timestamp} (timed : b.lastDecision = some last)
    (past : now ≤ last) : b.levelAt now = ⟨b.used, b.carry, last⟩ := by
  simp [levelAt, timed, past]

theorem levelAt_claim (b : Bucket) (now : Timestamp) (units : Nat) :
    (b.claim now units).levelAt now =
      ⟨(b.levelAt now).used + units, (b.levelAt now).carry, (b.levelAt now).time⟩ :=
  levelAt_of_le rfl (le_levelAt_time b now)

/-- A claim leaves the clock where the leak has set it. -/
theorem lastDecision_claim (w : b.WellFormed) (now : Timestamp) (units : Nat) :
    (b.claim now units).lastDecision = some (b.clock now) :=
  congrArg some (levelSpec w now).time

theorem claim_claim (b : Bucket) (now : Timestamp) (units more : Nat) :
    (b.claim now units).claim now more = b.claim now (units + more) := by
  have provisional : min (min b.provisional (b.levelAt now).used + units)
      ((b.levelAt now).used + units) + more =
      min b.provisional (b.levelAt now).used + (units + more) := by omega
  rw [claim, levelAt_claim]
  simp only [claim, provisional, Nat.add_assoc]

theorem free_claim (b : Bucket) (now : Timestamp) (units : Nat) :
    (b.claim now units).free now = b.free now - units := by
  simp only [free, levelAt_claim]
  exact Nat.sub_add_eq _ _ _

theorem revoke_claim (w : b.WellFormed) (now : Timestamp) {units back : Nat} (h : back ≤ units) :
    (b.claim now units).revoke back = b.claim now (units - back) := by
  have used : (b.levelAt now).used + units - back = (b.levelAt now).used + (units - back) := by
    omega
  have provisional : min b.provisional (b.levelAt now).used + units -
      min back ((b.levelAt now).used + units) =
      min b.provisional (b.levelAt now).used + (units - back) := by omega
  simp only [revoke, release, claim, used, carry_of_claimed w, provisional]

/-- Without older provisional units a rollback takes back all that was claimed. -/
theorem rollback_claim (w : b.WellFormed) (committed : b.provisional = 0) (now : Timestamp)
    (units : Nat) : (b.claim now units).rollback = b.claim now 0 := by
  have used : (b.levelAt now).used + units - units = (b.levelAt now).used + 0 := by omega
  simp only [rollback, release, claim, committed, Nat.zero_min, Nat.zero_add, used,
    carry_of_claimed w]

/-- A refund takes back units that were claimed, apart from the record of what is provisional. -/
theorem refund_claim (w : b.WellFormed) (now : Timestamp) (units : Nat) :
    ((b.claim now units).refund units).commit = (b.claim now 0).commit := by
  have used : (b.levelAt now).used + units - units = (b.levelAt now).used + 0 := by omega
  simp only [commit, refund, release, claim, used, carry_of_claimed w]

/-- Right after a commit there is nothing to roll back. -/
theorem rollback_commit (w : b.WellFormed) : b.commit.rollback = b.commit := by
  have carry : (if b.used - 0 = 0 then 0 else b.carry) = b.carry := by
    split
    · rename_i empty
      exact (w.carry_of_empty empty).symm
    · rfl
  exact congrArg (fun carry => { b with carry, provisional := 0 }) carry

theorem load_claim (w : b.WellFormed) (now : Timestamp) (units : Nat) :
    (b.claim now units).load = b.loadAt now + units * b.burstNanos := by
  have spec := (levelSpec w now).load
  simp only [load, claim, Nat.add_mul]
  omega

/-- At the instant of a claim its units are the load that is added. -/
theorem loadAt_claim (w : b.WellFormed) (now : Timestamp) (units : Nat) :
    (b.claim now units).loadAt now = b.loadAt now + units * b.burstNanos := by
  have still : (b.claim now units).elapsed now = 0 := by
    simp only [elapsed, claim, if_pos (le_levelAt_time b now)]
  rw [loadAt, still, Nat.zero_mul, Nat.sub_zero, load_claim w]

/-! ## Releases -/

/-- Releasing units and lowering the provisional record with them keeps a bucket well formed. -/
theorem release_wellFormed (w : b.WellFormed) {units provisional : Nat}
    (recorded : provisional ≤ b.used - units) :
    ({ b.release units with provisional } : Bucket).WellFormed where
  burst_pos := w.burst_pos
  burst_le := w.burst_le
  capacity_le := w.capacity_le
  used_le := Nat.le_trans (Nat.sub_le _ _) w.used_le
  provisional_le := recorded
  carry_lt := by
    change (if b.used - units = 0 then 0 else b.carry) < b.burstNanos
    split
    · exact w.burst_pos
    · exact w.carry_lt
  carry_of_empty := fun empty => if_pos empty
  carry_of_untimed := fun untimed => by
    change (if b.used - units = 0 then 0 else b.carry) = 0
    rw [w.carry_of_untimed untimed]
    exact ite_self 0

/-- Releasing units takes them off the load, held at zero. -/
theorem load_release (w : b.WellFormed) (units : Nat) :
    (b.release units).load = b.load - units * b.burstNanos := by
  have whole := load_add_carry w
  have fraction := w.carry_lt
  simp only [load, release]
  by_cases empty : b.used - units = 0
  · have bound := Nat.mul_le_mul_right b.burstNanos (Nat.sub_eq_zero_iff_le.mp empty)
    rw [if_pos empty, empty, Nat.zero_mul]
    unfold load at whole
    omega
  · rw [if_neg empty, Nat.sub_mul]
    omega

theorem rollback_wellFormed (w : b.WellFormed) : b.rollback.WellFormed :=
  release_wellFormed w (Nat.zero_le _)

theorem refund_wellFormed (w : b.WellFormed) (units : Nat) : (b.refund units).WellFormed :=
  release_wellFormed w (Nat.min_le_right _ _)

theorem revoke_wellFormed (w : b.WellFormed) (units : Nat) : (b.revoke units).WellFormed := by
  have := w.provisional_le
  exact release_wellFormed w (by omega)

theorem commit_wellFormed (w : b.WellFormed) : b.commit.WellFormed where
  burst_pos := w.burst_pos
  burst_le := w.burst_le
  capacity_le := w.capacity_le
  used_le := w.used_le
  provisional_le := Nat.zero_le _
  carry_lt := w.carry_lt
  carry_of_empty := w.carry_of_empty
  carry_of_untimed := w.carry_of_untimed

theorem restore_wellFormed (w : b.WellFormed) (used : Nat) (lastDecision : Option Timestamp) :
    (b.restore used lastDecision).WellFormed where
  burst_pos := w.burst_pos
  burst_le := w.burst_le
  capacity_le := w.capacity_le
  used_le := Nat.min_le_right _ _
  provisional_le := Nat.zero_le _
  carry_lt := w.burst_pos
  carry_of_empty := fun _ => rfl
  carry_of_untimed := fun _ => rfl

/-! ## Runs -/

inductive Op where
  | draw (now : Timestamp) (units : Nat)
  | rollback
  | commit
  | refund (units : Nat)
  | revoke (units : Nat)
  | restore (used : Nat) (lastDecision : Option Timestamp)
  deriving DecidableEq, Repr

def Op.Normal : Op → Prop
  | .draw now _ => now.Normal
  | .restore _ lastDecision => ∀ t ∈ lastDecision, t.Normal
  | _ => True

instance : DecidablePred Op.Normal
  | .draw now _ => inferInstanceAs (Decidable now.Normal)
  | .restore _ lastDecision => inferInstanceAs (Decidable (∀ t ∈ lastDecision, t.Normal))
  | .rollback | .commit | .refund _ | .revoke _ => inferInstanceAs (Decidable True)

/-- The bucket after an operation; a denied draw leaves it as it was. -/
def apply (b : Bucket) : Op → Bucket
  | .draw now units => (b.draw? now units).getD b
  | .rollback => b.rollback
  | .commit => b.commit
  | .refund units => b.refund units
  | .revoke units => b.revoke units
  | .restore used lastDecision => b.restore used lastDecision

def grants (b : Bucket) : Op → Bool
  | .draw now units => (b.draw? now units).isSome
  | _ => true

def run (b : Bucket) (ops : List Op) : Bucket := ops.foldl apply b

def verdicts (b : Bucket) : List Op → List Bool
  | [] => []
  | op :: ops => b.grants op :: (b.apply op).verdicts ops

theorem grants_draw (w : b.WellFormed) (now : Timestamp) (units : Nat) :
    b.grants (.draw now units) = true ↔ b.capacity ≠ 0 ∧ units ≤ b.free now := by
  rw [grants, draw?_eq w]
  split <;> simp_all

/-- A draw that is granted claims its units. -/
theorem apply_of_granted (w : b.WellFormed) {now : Timestamp} {units : Nat}
    (granted : b.grants (.draw now units) = true) :
    b.apply (.draw now units) = b.claim now units := by
  rw [apply, draw?_eq w, if_pos ((grants_draw w now units).mp granted)]
  rfl

/-- A draw that is denied does nothing. -/
theorem apply_of_denied {op : Op} (denied : b.grants op = false) : b.apply op = b := by
  cases op with
  | draw now units =>
    rw [apply, Option.isNone_iff_eq_none.mp (Option.isSome_eq_false_iff.mp denied)]
    rfl
  | rollback | commit | refund | revoke | restore => cases denied

/-- A draw is granted exactly if its units fit the capacity on top of the leaked load. -/
theorem grants_draw_iff (w : b.WellFormed) (positive : 0 < b.capacity) (now : Timestamp)
    (units : Nat) :
    b.grants (.draw now units) = true ↔
      b.loadAt now + units * b.burstNanos ≤ b.capacity * b.burstNanos := by
  have level := levelAt_used_le_iff w now (b.capacity - units)
  rw [grants_draw w, and_iff_right (Nat.ne_of_gt positive), le_free_iff w]
  rw [Nat.sub_mul] at level
  constructor
  · intro fits
    have small := Nat.mul_le_mul_right b.burstNanos (Nat.le_of_add_left_le fits)
    have := level.mp (by omega)
    omega
  · intro fits
    have small : units ≤ b.capacity :=
      Nat.le_of_mul_le_mul_right (Nat.le_of_add_left_le fits) w.burst_pos
    have := level.mpr (by omega)
    omega

/-- The last decision was at a normal time. -/
def NormalTime (b : Bucket) : Prop := ∀ t ∈ b.lastDecision, t.Normal

theorem normalTime_of_untimed (untimed : b.lastDecision = none) : b.NormalTime := by
  intro t member
  rw [untimed] at member
  cases member

theorem elapsed_of_timed {last : Timestamp} (timed : b.lastDecision = some last)
    (times : b.NormalTime) {t : Timestamp} (normal : t.Normal) :
    b.elapsed t = t.nanosSince last := by
  simp only [elapsed, timed]
  split
  · rename_i past
    exact (Timestamp.nanosSince_eq_zero_of_le normal (times last timed) past).symm
  · rfl

/-- Over some nanoseconds a bucket leaks at most the capacity for each of them. -/
theorem loadAt_le_add (times : b.NormalTime) {t t' : Timestamp} (ht : t.Normal) (ht' : t'.Normal)
    (later : t ≤ t') : b.loadAt t ≤ b.loadAt t' + t'.nanosSince t * b.capacity := by
  have order := (Timestamp.le_iff_toNanos_le ht ht').mp later
  have elapsed : b.elapsed t' ≤ b.elapsed t + t'.nanosSince t := by
    cases timed : b.lastDecision with
    | none => simp [Bucket.elapsed, timed]
    | some last =>
      rw [elapsed_of_timed timed times ht, elapsed_of_timed timed times ht']
      unfold Timestamp.nanosSince
      omega
  have leaked := Nat.mul_le_mul_right b.capacity elapsed
  rw [Nat.add_mul] at leaked
  unfold loadAt
  omega

theorem clock_normal {now : Timestamp} (times : b.NormalTime) (normal : now.Normal) :
    (b.clock now).Normal := by
  unfold clock
  split
  · exact normal
  · rename_i last timed
    split
    · exact times last timed
    · exact normal

theorem claim_normalTime (w : b.WellFormed) {now : Timestamp} (times : b.NormalTime)
    (normal : now.Normal) (units : Nat) : (b.claim now units).NormalTime := by
  intro t member
  cases member
  rw [(levelSpec w now).time]
  exact clock_normal times normal

/-- At an instant that time has reached the clock shows it. -/
theorem clock_eq_of_le {t : Timestamp} (reached : ∀ last ∈ b.lastDecision, last ≤ t)
    (times : b.NormalTime) (normal : t.Normal) : b.clock t = t := by
  unfold clock
  cases timed : b.lastDecision with
  | none => rfl
  | some last =>
    have before := (Timestamp.le_iff_toNanos_le (times last timed) normal).mp (reached last timed)
    dsimp only
    split
    · rename_i after
      have := (Timestamp.le_iff_toNanos_le normal (times last timed)).mp after
      exact Timestamp.eq_of_toNanos_eq (times last timed) normal (by omega)
    · rfl

/-- After a claim at an instant that time has reached, the bucket leaks from that instant on. -/
theorem loadAt_claim_of_le {t now : Timestamp} (w : b.WellFormed) (times : b.NormalTime)
    (reached : ∀ last ∈ b.lastDecision, last ≤ t) (ht : t.Normal) (hn : now.Normal)
    (units : Nat) :
    (b.claim t units).loadAt now =
      b.loadAt t + units * b.burstNanos - now.nanosSince t * b.capacity := by
  have time : (b.claim t units).lastDecision = some t := by
    rw [lastDecision_claim w, clock_eq_of_le reached times ht]
  rw [loadAt, load_claim w, elapsed_of_timed time (claim_normalTime w times ht units) hn]
  rfl

theorem apply_wellFormed (w : b.WellFormed) (op : Op) : (b.apply op).WellFormed := by
  cases op with
  | draw now units =>
    rw [apply, draw?_eq w]
    split
    · rename_i granted
      exact claim_wellFormed w granted.2
    · exact w
  | rollback => exact rollback_wellFormed w
  | commit => exact commit_wellFormed w
  | refund units => exact refund_wellFormed w units
  | revoke units => exact revoke_wellFormed w units
  | restore used lastDecision => exact restore_wellFormed w used lastDecision

theorem apply_normalTime (w : b.WellFormed) (times : b.NormalTime) {op : Op}
    (normal : op.Normal) : (b.apply op).NormalTime := by
  cases op with
  | draw now units =>
    rw [apply, draw?_eq w]
    split
    · exact claim_normalTime w times normal units
    · exact times
  | restore used lastDecision => exact normal
  | rollback | commit | refund units | revoke units => exact times

theorem run_wellFormed (w : b.WellFormed) (ops : List Op) : (b.run ops).WellFormed := by
  induction ops generalizing b with
  | nil => exact w
  | cons op ops ih => exact ih (apply_wellFormed w op)

theorem run_normalTime (w : b.WellFormed) (times : b.NormalTime) {ops : List Op}
    (normal : ∀ op ∈ ops, op.Normal) : (b.run ops).NormalTime := by
  induction ops generalizing b with
  | nil => exact times
  | cons op ops ih =>
    have first := apply_normalTime w times (normal op List.mem_cons_self)
    exact ih (apply_wellFormed w op) first fun later member =>
      normal later (List.mem_cons_of_mem op member)

/-! ## What no operation changes -/

/-- A draw does not change the size of a bucket. -/
private theorem draw?_frame {b' : Bucket} {now : Timestamp} {units : Nat}
    (drawn : b.draw? now units = some b') :
    b'.capacity = b.capacity ∧ b'.burstNanos = b.burstNanos := by
  unfold draw? at drawn
  split at drawn
  · cases drawn
  · dsimp only at drawn
    split at drawn
    · cases drawn
      exact ⟨rfl, rfl⟩
    · cases drawn

private theorem apply_frame (b : Bucket) (op : Op) :
    (b.apply op).capacity = b.capacity ∧ (b.apply op).burstNanos = b.burstNanos := by
  cases op with
  | draw now units =>
    rw [apply]
    cases drawn : b.draw? now units with
    | none => exact ⟨rfl, rfl⟩
    | some b' => exact draw?_frame drawn
  | rollback | commit | refund units | revoke units | restore used lastDecision => exact ⟨rfl, rfl⟩

@[simp] theorem capacity_apply (b : Bucket) (op : Op) : (b.apply op).capacity = b.capacity :=
  (apply_frame b op).1

@[simp] theorem burstNanos_apply (b : Bucket) (op : Op) :
    (b.apply op).burstNanos = b.burstNanos := (apply_frame b op).2

@[simp] theorem capacity_run (b : Bucket) (ops : List Op) : (b.run ops).capacity = b.capacity := by
  induction ops generalizing b with
  | nil => rfl
  | cons op ops ih => exact (ih (b.apply op)).trans (capacity_apply b op)

@[simp] theorem burstNanos_run (b : Bucket) (ops : List Op) :
    (b.run ops).burstNanos = b.burstNanos := by
  induction ops generalizing b with
  | nil => rfl
  | cons op ops ih => exact (ih (b.apply op)).trans (burstNanos_apply b op)

theorem run_singleton (b : Bucket) (op : Op) : b.run [op] = b.apply op := rfl

theorem run_append (b : Bucket) (ops more : List Op) :
    b.run (ops ++ more) = (b.run ops).run more := List.foldl_append

end Throttling.Bucket
