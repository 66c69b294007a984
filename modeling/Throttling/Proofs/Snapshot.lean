import Throttling.Proofs.Definitions
import Throttling.Proofs.Draws

/-!
# Throttles restored from a snapshot

A snapshot holds the units in use and the time of the last decision. The fraction of a unit that
has leaked already is not part of it, so a restored throttle may be fuller than the one it was saved
from, by less than a unit. `Throttle.Fuller` keeps that difference along equal uses. Without such a
fraction the two answer alike for good; with one they may part, and where they first do it is the
restored throttle that denies (`restored_decides_like_original`).
-/

set_option autoImplicit false

namespace Throttling

namespace Bucket

/-- The bucket `b` is `a` with up to `gap` fractions more in use. -/
structure Fuller (gap : Nat) (a b : Bucket) : Prop where
  left : a.WellFormed
  right : b.WellFormed
  capacity : b.capacity = a.capacity
  burstNanos : b.burstNanos = a.burstNanos
  lastDecision : b.lastDecision = a.lastDecision
  load_le : a.load ≤ b.load
  load_le_add : b.load ≤ a.load + gap

variable {a b : Bucket} {gap : Nat} {now : Timestamp}

namespace Fuller

theorem elapsed (fuller : Fuller gap a b) (now : Timestamp) : b.elapsed now = a.elapsed now := by
  unfold Bucket.elapsed
  rw [fuller.lastDecision]

theorem clock (fuller : Fuller gap a b) (now : Timestamp) : b.clock now = a.clock now := by
  unfold Bucket.clock
  rw [fuller.lastDecision]

/-- What leaks is the same for both, so the difference stays, or shrinks where they run empty. -/
theorem loadAt_le (fuller : Fuller gap a b) (now : Timestamp) :
    a.loadAt now ≤ b.loadAt now ∧ b.loadAt now ≤ a.loadAt now + gap := by
  have lower := fuller.load_le
  have upper := fuller.load_le_add
  unfold Bucket.loadAt
  rw [fuller.elapsed, fuller.capacity]
  omega

theorem used_le (fuller : Fuller gap a b) : a.used ≤ b.used := by
  have own := (used_le_iff fuller.right b.used).mp (Nat.le_refl _)
  rw [fuller.burstNanos] at own
  exact (used_le_iff fuller.left b.used).mpr (Nat.le_trans fuller.load_le own)

/-- A difference of less than a unit shows as one unit at most. -/
theorem used_le_succ (fuller : Fuller gap a b) (small : gap ≤ a.burstNanos) :
    b.used ≤ a.used + 1 := by
  have own := (used_le_iff fuller.left a.used).mp (Nat.le_refl _)
  have upper := fuller.load_le_add
  refine (used_le_iff fuller.right _).mpr ?_
  rw [fuller.burstNanos, Nat.succ_mul]
  omega

theorem claim (fuller : Fuller gap a b) {units : Nat} (fitsLeft : units ≤ a.free now)
    (fitsRight : units ≤ b.free now) : Fuller gap (a.claim now units) (b.claim now units) where
  left := claim_wellFormed fuller.left fitsLeft
  right := claim_wellFormed fuller.right fitsRight
  capacity := fuller.capacity
  burstNanos := fuller.burstNanos
  lastDecision := by
    have same := fuller.clock now
    rw [← (levelSpec fuller.left now).time, ← (levelSpec fuller.right now).time] at same
    exact congrArg some same
  load_le := by
    have leaked := (fuller.loadAt_le now).1
    rw [load_claim fuller.left, load_claim fuller.right, fuller.burstNanos]
    omega
  load_le_add := by
    have leaked := (fuller.loadAt_le now).2
    rw [load_claim fuller.left, load_claim fuller.right, fuller.burstNanos]
    omega

theorem commit (fuller : Fuller gap a b) : Fuller gap a.commit b.commit :=
  { fuller with
    left := commit_wellFormed fuller.left
    right := commit_wellFormed fuller.right }

/-- A draw that both grant or both deny keeps the difference. -/
theorem draw (fuller : Fuller gap a b) {units : Nat}
    (same : b.grants (.draw now units) = a.grants (.draw now units)) :
    Fuller gap (a.apply (.draw now units)) (b.apply (.draw now units)) := by
  cases verdict : a.grants (.draw now units) with
  | true =>
    have other := same.trans verdict
    have room := (grants_draw fuller.left now units).mp verdict
    have room' := (grants_draw fuller.right now units).mp other
    rw [apply_of_granted fuller.left verdict, apply_of_granted fuller.right other]
    exact fuller.claim room.2 room'.2
  | false =>
    rw [apply_of_denied verdict, apply_of_denied (same.trans verdict)]
    exact fuller

/-- What the fuller bucket grants the other one grants, too. -/
theorem grants (fuller : Fuller gap a b) {units : Nat}
    (granted : b.grants (.draw now units) = true) : a.grants (.draw now units) = true := by
  by_cases empty : a.capacity = 0
  · have none : b.capacity = 0 := fuller.capacity.trans empty
    simp [Bucket.grants, draw?, none] at granted
  have positive := Nat.pos_of_ne_zero empty
  have leaked := (fuller.loadAt_le now).1
  rw [grants_draw_iff fuller.right (fuller.capacity ▸ positive), fuller.burstNanos,
    fuller.capacity] at granted
  rw [grants_draw_iff fuller.left positive]
  omega

/-- Without a difference each of them is the fuller one. -/
theorem symm (equal : Fuller 0 a b) : Fuller 0 b a where
  left := equal.right
  right := equal.left
  capacity := equal.capacity.symm
  burstNanos := equal.burstNanos.symm
  lastDecision := equal.lastDecision.symm
  load_le := equal.load_le_add
  load_le_add := equal.load_le

theorem grants_eq (equal : Fuller 0 a b) (units : Nat) :
    b.grants (.draw now units) = a.grants (.draw now units) :=
  Bool.eq_iff_iff.mpr ⟨equal.grants, equal.symm.grants⟩

theorem used_eq (equal : Fuller 0 a b) : b.used = a.used :=
  Nat.le_antisymm equal.symm.used_le equal.used_le

end Fuller

/-- Restored to the units in use, a bucket has in use again what had leaked of the last one. -/
theorem load_restore {start : Bucket} (w : b.WellFormed) (capacity : start.capacity = b.capacity)
    (burstNanos : start.burstNanos = b.burstNanos) :
    (start.restore b.used b.lastDecision).load = b.load + b.carry := by
  have clamped : min b.used start.capacity = b.used := Nat.min_eq_left (capacity ▸ w.used_le)
  rw [load_add_carry w, ← burstNanos]
  simp only [Bucket.load, restore, clamped, Nat.sub_zero]

theorem fuller_restore {start : Bucket} (w : b.WellFormed) (fresh : start.WellFormed)
    (capacity : start.capacity = b.capacity) (burstNanos : start.burstNanos = b.burstNanos) :
    Fuller b.carry b (start.restore b.used b.lastDecision) := by
  have load := load_restore w capacity burstNanos
  exact
    { left := w
      right := restore_wellFormed fresh _ _
      capacity, burstNanos
      lastDecision := rfl
      load_le := by omega
      load_le_add := Nat.le_of_eq load }

/-! ### The carried fraction -/

/-- The carried fraction is what is left over of the leak of some nanoseconds. -/
def InPhase (b : Bucket) : Prop := ∃ nanos, b.carry = nanos * b.capacity % b.burstNanos

theorem inPhase_of_carry_eq_zero (empty : b.carry = 0) : b.InPhase := ⟨0, by simp [empty]⟩

theorem levelAt_inPhase (w : b.WellFormed) (phase : b.InPhase) (now : Timestamp) :
    ∃ nanos, (b.levelAt now).carry = nanos * b.capacity % b.burstNanos := by
  obtain ⟨nanos, carry⟩ := phase
  have nothing : ∃ nanos, 0 = nanos * b.capacity % b.burstNanos := ⟨0, by simp⟩
  unfold levelAt
  cases b.lastDecision with
  | none => exact ⟨nanos, carry⟩
  | some last =>
    dsimp only
    by_cases past : now ≤ last
    · rw [if_pos past]
      exact ⟨nanos, carry⟩
    rw [if_neg past]
    by_cases whole : b.burstNanos ≤ now.nanosSince last
    · rw [if_pos whole]
      exact nothing
    rw [if_neg whole, leak_total_eq w (Nat.lt_of_not_le whole)]
    split
    · exact nothing
    · refine ⟨now.nanosSince last + nanos, ?_⟩
      rw [carry, Nat.add_mod_mod, Nat.add_mul]

theorem apply_inPhase (w : b.WellFormed) (phase : b.InPhase) (op : Op) : (b.apply op).InPhase := by
  have released (units provisional : Nat) :
      ({ b.release units with provisional } : Bucket).InPhase := by
    by_cases empty : b.used - units = 0
    · exact inPhase_of_carry_eq_zero (if_pos empty)
    · obtain ⟨nanos, carry⟩ := phase
      exact ⟨nanos, (if_neg empty).trans carry⟩
  cases op with
  | draw now units =>
    rw [apply, draw?_eq w]
    split
    · exact levelAt_inPhase w phase now
    · exact phase
  | rollback => exact released _ _
  | commit => exact phase
  | refund units => exact released units _
  | revoke units => exact released units _
  | restore used lastDecision => exact inPhase_of_carry_eq_zero rfl

theorem run_inPhase (w : b.WellFormed) (phase : b.InPhase) (ops : List Op) :
    (b.run ops).InPhase := by
  induction ops generalizing b with
  | nil => exact phase
  | cons op ops ih => exact ih (apply_wellFormed w op) (apply_inPhase w phase op)

/-- Within a burst period there is a nanosecond at which the carried fraction has become a whole
unit. -/
theorem InPhase.completes (phase : b.InPhase) (w : b.WellFormed) :
    ∃ nanos units, nanos ≤ b.burstNanos ∧ units ≤ b.capacity ∧
      nanos * b.capacity + b.carry = units * b.burstNanos := by
  obtain ⟨passed, carry⟩ := phase
  let rest := passed % b.burstNanos
  have below : rest < b.burstNanos := Nat.mod_lt _ w.burst_pos
  have division := Nat.div_add_mod (rest * b.capacity) b.burstNanos
  have same : rest * b.capacity % b.burstNanos = b.carry := by
    rw [carry]
    exact Nat.mod_mul_mod passed b.capacity b.burstNanos
  have leaked : rest * b.capacity / b.burstNanos ≤ b.capacity := by
    refine Nat.div_le_of_le_mul ?_
    exact Nat.mul_le_mul_right _ (Nat.le_of_lt below)
  refine ⟨b.burstNanos - rest, b.capacity - rest * b.capacity / b.burstNanos, Nat.sub_le _ _,
    Nat.sub_le _ _, ?_⟩
  have whole := Nat.mul_le_mul_right b.capacity (Nat.le_of_lt below)
  have part := Nat.mul_le_mul_right b.burstNanos leaked
  rw [Nat.sub_mul, Nat.sub_mul, Nat.mul_comm b.capacity b.burstNanos]
  rw [Nat.mul_comm] at division
  rw [Nat.mul_comm b.capacity b.burstNanos] at part
  omega

/-- Units claimed at the last decision, and a draw after that. -/
private theorem verdicts_after_claim {last t : Timestamp} (w : b.WellFormed)
    (positive : 0 < b.capacity) (timed : b.lastDecision = some last) (hl : last.Normal)
    (ht : t.Normal) {claimed : Nat} (fits : b.used + claimed ≤ b.capacity) (units : Nat) :
    b.verdicts [.draw last claimed, .draw t units] =
      [true, decide (b.load + claimed * b.burstNanos - t.nanosSince last * b.capacity +
        units * b.burstNanos ≤ b.capacity * b.burstNanos)] := by
  have times : b.NormalTime := by
    intro time member
    rw [timed] at member
    cases member
    exact hl
  have reached : ∀ time ∈ b.lastDecision, time ≤ last := by
    intro time member
    rw [timed] at member
    cases member
    exact Timestamp.le_refl last
  have still : b.loadAt last = b.load := by simp [loadAt, elapsed, timed, Timestamp.le_refl]
  have room : claimed ≤ b.free last := by
    rw [le_free_iff w, levelAt_of_le timed (Timestamp.le_refl last)]
    exact fits
  have drawn : b.draw? last claimed = some (b.claim last claimed) := by
    rw [draw?_eq w, if_pos ⟨Nat.ne_of_gt positive, room⟩]
  have second : (b.claim last claimed).grants (.draw t units) =
      decide (b.load + claimed * b.burstNanos - t.nanosSince last * b.capacity +
        units * b.burstNanos ≤ b.capacity * b.burstNanos) := by
    rw [Bool.eq_iff_iff, grants_draw_iff (claim_wellFormed w room) positive,
      loadAt_claim_of_le w times reached hl ht, still, decide_eq_true_iff]
    rfl
  simp only [verdicts, grants, apply, drawn, Option.isSome_some, Option.getD_some]
  exact congrArg (fun verdict => [true, verdict]) second

/-- Filled up at the last decision, a bucket that carries a fraction has a unit more free, once that
has become a whole one, than a bucket that has the fraction in use. -/
theorem exists_draw_of_carry {r : Bucket} {last : Timestamp} (w : b.WellFormed)
    (phase : b.InPhase) (timed : b.lastDecision = some last) (normal : last.Normal)
    (carries : b.carry ≠ 0) (fuller : Fuller gap b r) (behind : r.load = b.load + b.carry) :
    ∃ t units, t.Normal ∧ last ≤ t ∧ units ≤ b.capacity ∧
      b.verdicts [.draw last (b.capacity - b.used), .draw t units] = [true, true] ∧
      r.verdicts [.draw last (b.capacity - b.used), .draw t units] = [true, false] := by
  obtain ⟨nanos, units, -, inCapacity, completes⟩ := phase.completes w
  obtain ⟨t, ht, later⟩ := last.exists_later nanos
  have after : last ≤ t := (Timestamp.le_iff_toNanos_le normal ht).mpr (by omega)
  have since : t.nanosSince last = nanos := by
    unfold Timestamp.nanosSince
    omega
  have inUse : b.used ≠ 0 := fun empty => carries (w.carry_of_empty empty)
  have positive : 0 < b.capacity := Nat.lt_of_lt_of_le (Nat.pos_of_ne_zero inUse) w.used_le
  have inUse' : r.used ≤ b.used := by
    rw [used_le_iff fuller.right, behind, load_add_carry w, fuller.burstNanos]
  have capacity := fuller.capacity
  have fits := Nat.add_sub_cancel' w.used_le
  have fits' : r.used + (b.capacity - b.used) ≤ r.capacity := by omega
  have timed' : r.lastDecision = some last := fuller.lastDecision.trans timed
  have own := verdicts_after_claim w positive timed normal ht (Nat.le_of_eq fits) units
  have other :=
    verdicts_after_claim fuller.right (capacity ▸ positive) timed' normal ht fits' units
  have full : b.load + b.carry + (b.capacity - b.used) * b.burstNanos =
      b.capacity * b.burstNanos := by
    rw [load_add_carry w, ← Nat.add_mul, fits]
  have bound := Nat.mul_le_mul_right b.burstNanos inCapacity
  rw [since] at own other
  rw [behind, capacity, fuller.burstNanos] at other
  refine ⟨t, units, ht, after, inCapacity, ?_, ?_⟩
  · rw [own, decide_eq_true (by omega)]
  · rw [other, decide_eq_false (by omega)]

end Bucket

/-! ## Uses of a throttle -/

namespace Throttle

inductive Use where
  | draw (now : Timestamp) (amount : Nat)
  | commit
  deriving DecidableEq, Repr

namespace Use

def Normal : Use → Prop
  | draw now _ => now.Normal
  | commit => True

instance : DecidablePred Normal
  | draw now _ => inferInstanceAs (Decidable now.Normal)
  | commit => inferInstanceAs (Decidable True)

def NotBefore (time : Option Timestamp) : Use → Prop
  | draw now _ => ∀ t ∈ time, t ≤ now
  | commit => True

instance (time : Option Timestamp) : DecidablePred (NotBefore time)
  | draw now _ => inferInstanceAs (Decidable (∀ t ∈ time, t ≤ now))
  | commit => inferInstanceAs (Decidable True)

def op (t : Throttle) : Use → Bucket.Op
  | draw now amount => .draw now (t.units amount)
  | commit => .commit

end Use

def use (t : Throttle) : Use → Throttle
  | .draw now amount => (t.draw? now amount).getD t
  | .commit => t.commit

def grants (t : Throttle) : Use → Bool
  | .draw now amount => (t.draw? now amount).isSome
  | .commit => true

def run (t : Throttle) (uses : List Use) : Throttle := uses.foldl use t

def verdicts (t : Throttle) : List Use → List Bool
  | [] => []
  | u :: us => t.grants u :: (t.use u).verdicts us

inductive Built : Throttle → Prop
  | operations {name : String} {rate burstMillis : Nat} {t : Throttle}
      (made : Throttle.operations name rate burstMillis = .ok t) : Built t
  | perSecond (kind : ResourceKind) (rate burstSeconds : Nat) :
      Built (.perSecond kind rate burstSeconds)

variable {t r : Throttle} {gap : Nat}

/-- A new throttle has an empty bucket. -/
theorem Built.fresh (built : t.Built) :
    ∃ capacity burstNanos, t.bucket = .new capacity burstNanos ∧ t.bucket.WellFormed := by
  cases built with
  | operations made =>
    obtain ⟨inRange, rfl⟩ := operations_eq_ok made
    exact ⟨_, _, rfl, Bucket.new_wellFormed inRange (Word.saturate64_le _)⟩
  | perSecond kind rate burstSeconds =>
    exact ⟨_, _, rfl, perSecond_wellFormed kind rate burstSeconds⟩

theorem grants_eq_bucket (t : Throttle) (u : Use) : t.grants u = t.bucket.grants (u.op t) := by
  cases u with
  | draw now amount => exact Option.isSome_map
  | commit => rfl

theorem use_eq_bucket (t : Throttle) (u : Use) :
    t.use u = { t with bucket := t.bucket.apply (u.op t) } := by
  cases u with
  | draw now amount =>
    simp only [use, draw?, Use.op, Bucket.apply]
    cases t.bucket.draw? now (t.units amount) <;> rfl
  | commit => rfl

/-- The throttle `r` is `t` with up to `gap` fractions more in use. -/
structure Fuller (gap : Nat) (t r : Throttle) : Prop where
  unitsPerAmount : r.unitsPerAmount = t.unitsPerAmount
  bucket : Bucket.Fuller gap t.bucket r.bucket

namespace Fuller

theorem op_eq (fuller : Fuller gap t r) (u : Use) : u.op r = u.op t := by
  cases u with
  | draw now amount => simp only [Use.op, units, fuller.unitsPerAmount]
  | commit => rfl

theorem grants (fuller : Fuller gap t r) {u : Use} (granted : r.grants u = true) :
    t.grants u = true := by
  cases u with
  | draw now amount =>
    rw [grants_eq_bucket, fuller.op_eq] at granted
    rw [grants_eq_bucket]
    exact fuller.bucket.grants granted
  | commit => rfl

/-- A use that both grant or both deny keeps the difference. -/
theorem use (fuller : Fuller gap t r) {u : Use} (same : r.grants u = t.grants u) :
    Fuller gap (t.use u) (r.use u) := by
  rw [grants_eq_bucket, grants_eq_bucket, fuller.op_eq] at same
  rw [use_eq_bucket, use_eq_bucket, fuller.op_eq]
  refine ⟨fuller.unitsPerAmount, ?_⟩
  cases u with
  | draw now amount => exact fuller.bucket.draw same
  | commit => exact fuller.bucket.commit

/-- Uses that are answered alike keep the difference. -/
theorem run (fuller : Fuller gap t r) {uses : List Use}
    (same : r.verdicts uses = t.verdicts uses) : Fuller gap (t.run uses) (r.run uses) := by
  induction uses generalizing t r with
  | nil => exact fuller
  | cons u us ih =>
    obtain ⟨first, rest⟩ := List.cons_eq_cons.mp same
    exact ih (fuller.use first) rest

/-- Without a difference all uses are answered alike. -/
theorem verdicts_eq (equal : Fuller 0 t r) (uses : List Use) :
    r.verdicts uses = t.verdicts uses := by
  induction uses generalizing t r with
  | nil => rfl
  | cons u us ih =>
    have first : r.grants u = t.grants u := by
      rw [grants_eq_bucket, grants_eq_bucket, equal.op_eq]
      cases u with
      | draw now amount => exact equal.bucket.grants_eq _
      | commit => rfl
    exact List.cons_eq_cons.mpr ⟨first, ih (equal.use first)⟩

end Fuller

/-! ## Throttles in use -/

/-- What amounts are in bucket units does not change with use. -/
private theorem use_map_op (t : Throttle) (u : Use) (us : List Use) :
    us.map (Use.op (t.use u)) = us.map (Use.op t) := by
  rw [use_eq_bucket]
  refine List.map_congr_left fun v _ => ?_
  cases v with
  | draw now amount => rfl
  | commit => rfl

theorem run_eq_bucket (t : Throttle) (uses : List Use) :
    t.run uses = { t with bucket := t.bucket.run (uses.map (Use.op t)) } := by
  induction uses generalizing t with
  | nil => rfl
  | cons u us ih =>
    change (t.use u).run us = _
    rw [ih, use_map_op, use_eq_bucket]
    rfl

theorem verdicts_eq_bucket (t : Throttle) (uses : List Use) :
    t.verdicts uses = t.bucket.verdicts (uses.map (Use.op t)) := by
  induction uses generalizing t with
  | nil => rfl
  | cons u us ih =>
    rw [verdicts, List.map_cons, Bucket.verdicts, grants_eq_bucket, ih, use_map_op, use_eq_bucket]

/-- What holds of a throttle `t` that was made as `start` and then used at normal times. -/
structure InUse (start t : Throttle) : Prop where
  fresh : start.bucket.WellFormed
  wellFormed : t.bucket.WellFormed
  times : t.bucket.NormalTime
  phase : t.bucket.InPhase
  unitsPerAmount : start.unitsPerAmount = t.unitsPerAmount
  capacity : start.bucket.capacity = t.bucket.capacity
  burstNanos : start.bucket.burstNanos = t.bucket.burstNanos

theorem Built.inUse {start : Throttle} (built : start.Built) {uses : List Use}
    (normal : ∀ u ∈ uses, u.Normal) : InUse start (start.run uses) := by
  obtain ⟨capacity, burstNanos, new, w⟩ := built.fresh
  have times : start.bucket.NormalTime := Bucket.normalTime_of_untimed (by rw [new]; rfl)
  have phase : start.bucket.InPhase := Bucket.inPhase_of_carry_eq_zero (by rw [new]; rfl)
  have normalOps : ∀ op ∈ uses.map (Use.op start), op.Normal := by
    intro op member
    obtain ⟨u, used, rfl⟩ := List.mem_map.mp member
    have own := normal u used
    cases u with
    | draw now amount => exact own
    | commit => trivial
  rw [run_eq_bucket]
  exact
    { fresh := w
      wellFormed := Bucket.run_wellFormed w _
      times := Bucket.run_normalTime w times normalOps
      phase := Bucket.run_inPhase w phase _
      unitsPerAmount := rfl
      capacity := (Bucket.capacity_run _ _).symm
      burstNanos := (Bucket.burstNanos_run _ _).symm }

/-- A throttle restored from a snapshot has in use again what was carried when that was taken. -/
theorem InUse.fuller {start : Throttle} (inUse : InUse start t) :
    Fuller t.bucket.carry t (start.restore t.snapshot) :=
  ⟨inUse.unitsPerAmount,
    Bucket.fuller_restore inUse.wellFormed inUse.fresh inUse.capacity inUse.burstNanos⟩

/-- Where a fraction was carried and draws are in single units, some later draws are answered
differently. -/
theorem InUse.exists_parting {start : Throttle} (inUse : InUse start t)
    (single : t.unitsPerAmount = 1) (carries : t.bucket.carry ≠ 0) :
    ∃ later : List Use, (∀ u ∈ later, u.Normal ∧ u.NotBefore t.bucket.lastDecision) ∧
      (start.restore t.snapshot).verdicts later ≠ t.verdicts later := by
  have w := inUse.wellFormed
  obtain ⟨last, timed⟩ := Option.ne_none_iff_exists'.mp
    fun untimed => carries (w.carry_of_untimed untimed)
  have behind := Bucket.load_restore w inUse.capacity inUse.burstNanos
  obtain ⟨instant, asked, normal, after, inCapacity, granted, denied⟩ :=
    Bucket.exists_draw_of_carry w inUse.phase timed (inUse.times last timed) carries
      inUse.fuller.bucket behind
  have exact {amount : Nat} (inRange : amount ≤ t.bucket.capacity) : t.units amount = amount := by
    rw [units, single, Nat.mul_one]
    exact Word.saturate64_of_le (Nat.le_trans inRange w.capacity_le)
  have ops : [Use.draw last (t.bucket.capacity - t.bucket.used), .draw instant asked].map
      (Use.op t) = [.draw last (t.bucket.capacity - t.bucket.used), .draw instant asked] := by
    simp only [List.map_cons, List.map_nil, Use.op, exact (Nat.sub_le _ _), exact inCapacity]
  refine ⟨[.draw last (t.bucket.capacity - t.bucket.used), .draw instant asked], ?_, ?_⟩
  · rw [timed]
    simp [Use.Normal, Use.NotBefore, normal, after, inUse.times last timed, Timestamp.le_refl]
  · have same : (Use.op (start.restore t.snapshot)) = Use.op t := funext inUse.fuller.op_eq
    rw [verdicts_eq_bucket, verdicts_eq_bucket, same, ops, granted]
    exact fun equal => absurd (denied.symm.trans equal) (by decide)

/-- A throttle restored from the snapshot of another one, made alike and used at normal times, gives
the same verdicts and shows the same use as that one if no fraction of a unit was carried when the
snapshot was taken; if one was, and draws are in single units, some later draws are answered
differently, seconds being unbounded. Which throttles of operations that carry a fraction part, whose
draws are in thousands of units, is left open. In any case, as long as the verdicts have been the
same, the restored throttle shows at most one unit more in use, and does not grant what the other one
would deny. -/
theorem restored_decides_like_original {start : Throttle} (built : start.Built) {uses : List Use}
    (normal : ∀ u ∈ uses, u.Normal) :
    let t := start.run uses
    let restored := start.restore t.snapshot
    (t.bucket.carry = 0 → ∀ later, restored.verdicts later = t.verdicts later ∧
      (restored.run later).used = (t.run later).used) ∧
    (start.unitsPerAmount = 1 → t.bucket.carry ≠ 0 →
      ∃ later : List Use, (∀ u ∈ later, u.Normal ∧ u.NotBefore t.bucket.lastDecision) ∧
        restored.verdicts later ≠ t.verdicts later) ∧
    ∀ later, restored.verdicts later = t.verdicts later →
      (t.run later).used ≤ (restored.run later).used ∧
      (restored.run later).used ≤ (t.run later).used + 1 ∧
      ∀ u, (restored.run later).grants u = true → (t.run later).grants u = true := by
  intro t restored
  have inUse : InUse start t := built.inUse normal
  have fuller : Fuller t.bucket.carry t restored := inUse.fuller
  refine ⟨fun whole later => ?_, fun single carries => ?_, fun later same => ?_⟩
  · rw [whole] at fuller
    have same := fuller.verdicts_eq later
    exact ⟨same, (fuller.run same).bucket.used_eq⟩
  · exact inUse.exists_parting (inUse.unitsPerAmount ▸ single) carries
  · have after := fuller.run same
    have small : t.bucket.carry ≤ (t.run later).bucket.burstNanos := by
      rw [run_eq_bucket]
      exact Nat.le_of_lt ((Bucket.burstNanos_run _ _).symm ▸ inUse.wellFormed.carry_lt)
    exact ⟨after.bucket.used_le, after.bucket.used_le_succ small, fun u => after.grants⟩

/-- Four units leak in a second. A quarter of a second after the draw a whole unit has leaked and
nothing is carried; two fifths after it more than half of the next one has. -/
theorem restored_decides_like_original_after_draw :
    let start := Throttle.perSecond .gas 4 1
    let whole := start.run [.draw ⟨0, 0⟩ 4, .commit, .draw ⟨0, 250000000⟩ 0]
    let part := start.run [.draw ⟨0, 0⟩ 4, .commit, .draw ⟨0, 400000000⟩ 0]
    (∀ later, (start.restore whole.snapshot).verdicts later = whole.verdicts later ∧
      ((start.restore whole.snapshot).run later).used = (whole.run later).used) ∧
    ∃ later : List Use, (∀ u ∈ later, u.Normal ∧ u.NotBefore part.bucket.lastDecision) ∧
      (start.restore part.snapshot).verdicts later ≠ part.verdicts later := by
  intro start whole part
  have built : start.Built := .perSecond .gas 4 1
  have atWhole := restored_decides_like_original built
    (by decide : ∀ u ∈ [Use.draw ⟨0, 0⟩ 4, .commit, .draw ⟨0, 250000000⟩ 0], u.Normal)
  have atPart := restored_decides_like_original built
    (by decide : ∀ u ∈ [Use.draw ⟨0, 0⟩ 4, .commit, .draw ⟨0, 400000000⟩ 0], u.Normal)
  exact ⟨atWhole.1 (by decide), atPart.2.1 rfl (by decide)⟩

/-- A fifth of a unit is carried when the snapshot is taken. Three tenths of a second later the
original has two units free, and the restored throttle has one. -/
theorem restored_can_part :
    ¬ ∀ {start : Throttle}, start.Built → ∀ {uses : List Use}, (∀ u ∈ uses, u.Normal) →
      ∀ later : List Use, (∀ u ∈ later,
          u.Normal ∧ u.NotBefore (start.run uses).bucket.lastDecision) →
        (start.restore (start.run uses).snapshot).verdicts later =
            (start.run uses).verdicts later ∧
          ((start.restore (start.run uses).snapshot).run later).used =
            ((start.run uses).run later).used := by
  intro alike
  let uses : List Use := [.draw ⟨0, 0⟩ 3, .draw ⟨0, 400000000⟩ 0]
  have same := (@alike _ (.perSecond .gas 3 1) uses (by decide) [.draw ⟨0, 700000000⟩ 2]
    (by decide)).1
  exact absurd same (by decide)

end Throttle

end Throttling
