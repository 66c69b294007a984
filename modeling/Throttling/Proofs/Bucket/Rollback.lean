import Throttling.Proofs.Bucket.Operations

/-!
# What a rollback undoes

What is provisional is cut down to what is left of it whenever the bucket leaks or is refunded, so
whether it is still the right number of units at a rollback depends on all that went before. It is:
a rollback exchanged with a granted draw turns it into a draw of nothing at the same time
(`rollback_claim_eq`), and one exchanged with a refund leaves it as it is (`rollback_refund`). A
rollback at the end of a run can thus be moved to its start, where right after a commit it does
nothing. What remains is the run without the units it was granted (`rollback_undoes_granted`).
-/

set_option autoImplicit false

namespace Throttling.Bucket

variable {a b : Bucket}

/-- A bucket is determined by its size, its load, the time and what is provisional. -/
theorem eq_of_load_eq (wa : a.WellFormed) (wb : b.WellFormed) (capacity : a.capacity = b.capacity)
    (burstNanos : a.burstNanos = b.burstNanos) (lastDecision : a.lastDecision = b.lastDecision)
    (provisional : a.provisional = b.provisional) (load : a.load = b.load) : a = b := by
  have used : a.used = b.used := by
    refine eq_of_forall_ge_iff fun n => ?_
    rw [used_le_iff wa, used_le_iff wb, load, burstNanos]
  have carry : a.carry = b.carry := by
    have wholeA := load_add_carry wa
    have wholeB := load_add_carry wb
    rw [used, burstNanos] at wholeA
    omega
  cases a
  cases b
  simp_all

theorem load_rollback (w : b.WellFormed) :
    b.rollback.load = b.load - b.provisional * b.burstNanos := load_release w b.provisional

/-- Units above the load are no more to take off it than the load itself. -/
private theorem sub_min_mul {load units : Nat} (bound : load ≤ units * b.burstNanos)
    (provisional : Nat) :
    load - min provisional units * b.burstNanos = load - provisional * b.burstNanos := by
  rcases Nat.le_total provisional units with below | above
  · rw [Nat.min_eq_left below]
  · have more := Nat.mul_le_mul_right b.burstNanos above
    rw [Nat.min_eq_right above]
    omega

/-! ## Exchanging a rollback with what came before it -/

/-- Rolled back after a claim, a bucket is as if nothing had been claimed at that time. -/
theorem rollback_claim_eq (w : b.WellFormed) {now : Timestamp} {units : Nat}
    (fits : units ≤ b.free now) : (b.claim now units).rollback = b.rollback.claim now 0 := by
  have claimed := claim_wellFormed w fits
  have rolled := rollback_wellFormed w
  have clock : (b.claim now units).lastDecision = (b.rollback.claim now 0).lastDecision := by
    have own : b.rollback.clock now = b.clock now := rfl
    simp only [claim, (levelSpec w now).time, (levelSpec rolled now).time, own]
  have leaked : b.rollback.loadAt now = b.loadAt now - b.provisional * b.burstNanos := by
    change b.rollback.load - b.elapsed now * b.capacity = _
    rw [load_rollback w, loadAt]
    omega
  -- what leaked away is not in the record any more, nor is it in the load
  have recorded := sub_min_mul ((levelAt_used_le_iff w now _).mp (Nat.le_refl _)) b.provisional
  refine eq_of_load_eq (rollback_wellFormed claimed) (claim_wellFormed rolled (Nat.zero_le _))
    rfl rfl clock (by simp [claim, rollback]) ?_
  calc
    (b.claim now units).rollback.load
        = b.loadAt now + units * b.burstNanos -
            (min b.provisional (b.levelAt now).used + units) * b.burstNanos := by
          rw [load_rollback claimed, load_claim w]
          rfl
    _ = b.loadAt now - b.provisional * b.burstNanos := by
          rw [Nat.add_mul, Nat.add_sub_add_right, recorded]
    _ = (b.rollback.claim now 0).load := by
          rw [load_claim rolled, leaked, Nat.zero_mul, Nat.add_zero]

/-- It does not matter whether units are given back before a rollback or after it. -/
theorem rollback_refund (w : b.WellFormed) (units : Nat) :
    (b.refund units).rollback = b.rollback.refund units := by
  have refunded := refund_wellFormed w units
  have rolled := rollback_wellFormed w
  have load : (b.refund units).load = b.load - units * b.burstNanos := load_release w units
  have bound : (b.refund units).load ≤ (b.refund units).used * b.burstNanos :=
    (used_le_iff refunded _).mp (Nat.le_refl _)
  refine eq_of_load_eq (rollback_wellFormed refunded) (refund_wellFormed rolled units) rfl rfl rfl
    (Nat.zero_min _).symm ?_
  calc
    (b.refund units).rollback.load
        = (b.refund units).load -
            min b.provisional (b.refund units).used * b.burstNanos := load_rollback refunded
    _ = b.load - units * b.burstNanos - b.provisional * b.burstNanos := by
          rw [sub_min_mul bound, load]
    _ = b.load - b.provisional * b.burstNanos - units * b.burstNanos := by omega
    _ = (b.rollback.refund units).load := by
          rw [← load_rollback w]
          exact (load_release rolled units).symm

/-- A second rollback finds nothing that is provisional. -/
theorem rollback_rollback (w : b.WellFormed) : b.rollback.rollback = b.rollback :=
  rollback_commit (b := b.rollback) (rollback_wellFormed w)

/-- Units given back in turn are given back at once. -/
theorem release_release (b : Bucket) (units more : Nat) :
    (b.release units).release more = b.release (units + more) := by
  unfold release
  dsimp only
  rw [Nat.sub_sub]
  congr 1
  by_cases emptied : b.used - units = 0
  · rw [if_pos emptied, ite_self, if_pos (by omega)]
  · rw [if_neg emptied]

/-- Units revoked in turn are revoked at once. -/
theorem revoke_revoke (b : Bucket) (units more : Nat) :
    (b.revoke units).revoke more = b.revoke (units + more) := by
  have recorded : min units b.used + min more (b.used - units) = min (units + more) b.used := by
    omega
  calc
    (b.revoke units).revoke more
        = { (b.release units).release more with
            provisional := b.provisional - min units b.used - min more (b.used - units) } := rfl
    _ = b.revoke (units + more) := by
          rw [release_release, Nat.sub_sub, recorded]
          rfl

/-! ## Runs without the units granted -/

def Op.IsUse : Op → Prop
  | .draw _ _ | .refund _ => True
  | .rollback | .commit | .revoke _ | .restore _ _ => False

instance : DecidablePred Op.IsUse
  | .draw _ _ | .refund _ => inferInstanceAs (Decidable True)
  | .rollback | .commit | .revoke _ | .restore _ _ => inferInstanceAs (Decidable False)

/-- A draw at the same time that asks for nothing; other operations as they are. -/
def Op.idle : Op → Op
  | .draw now _ => .draw now 0
  | op => op

/-- The operations with each granted draw made idle and each denied draw left out. -/
def unspent (b : Bucket) : List Op → List Op
  | [] => []
  | op :: ops => (if b.grants op then [op.idle] else []) ++ (b.apply op).unspent ops

/-- Rolled back after a use, a bucket is as if it had been rolled back before the idle use. -/
theorem rollback_apply (w : b.WellFormed) {op : Op} (use : op.IsUse) :
    (b.apply op).rollback = b.rollback.run (if b.grants op then [op.idle] else []) := by
  cases op with
  | draw now units =>
    cases verdict : b.grants (.draw now units) with
    | true =>
      have room := (grants_draw w now units).mp verdict
      have idle : b.rollback.grants (.draw now 0) = true :=
        (grants_draw (rollback_wellFormed w) now 0).mpr ⟨room.1, Nat.zero_le _⟩
      rw [apply_of_granted w verdict, rollback_claim_eq w room.2]
      exact (apply_of_granted (rollback_wellFormed w) idle).symm
    | false =>
      rw [apply_of_denied verdict]
      rfl
  | refund units => exact rollback_refund w units
  | rollback | commit | revoke | restore => cases use

/-- A rollback at the end of a run is one at its start, followed by the run without the units it was
granted. -/
theorem rollback_run (w : b.WellFormed) {uses : List Op} (each : ∀ op ∈ uses, op.IsUse) :
    (b.run uses).rollback = b.rollback.run (b.unspent uses) := by
  induction uses generalizing b with
  | nil => rfl
  | cons op ops ih =>
    obtain ⟨first, rest⟩ := List.forall_mem_cons.mp each
    change ((b.apply op).run ops).rollback = _
    rw [ih (apply_wellFormed w op) rest, rollback_apply w first, unspent, run_append]

/-- Whatever was done to a bucket before its commit, a rollback after any draws, at any times, and
any refunds leaves it as if every granted draw had asked for nothing at its time and no denied draw
had been made. A second rollback changes nothing. -/
theorem rollback_undoes_granted {capacity burstNanos : Nat} (hc : capacity ≤ Word.max64)
    (hb : burstNanos ≤ Word.max64) (before : List Op) {uses : List Op}
    (each : ∀ op ∈ uses, op.IsUse) :
    let start := ((new capacity burstNanos).run before).commit
    let undone := (start.run uses).rollback
    undone = start.run (start.unspent uses) ∧ undone.rollback = undone := by
  intro start undone
  have earlier := run_wellFormed (new_wellFormed hc hb) before
  have w : start.WellFormed := commit_wellFormed earlier
  have untouched : start.rollback = start := rollback_commit earlier
  have moved := rollback_run w each
  rw [untouched] at moved
  exact ⟨moved, rollback_rollback (run_wellFormed w uses)⟩

/-- Between the draws more leaks away than was in use at the commit, so a part of what was drawn is
gone already when the rollback comes. One draw is denied, and the last one is made back in time. -/
theorem rollback_undoes_granted_after_leaks :
    let start := ((new 5 10).run [.draw ⟨0, 0⟩ 2]).commit
    let uses : List Op :=
      [.draw ⟨0, 0⟩ 3, .draw ⟨0, 3⟩ 1, .draw ⟨0, 3⟩ 5, .refund 1, .draw ⟨0, 7⟩ 2, .draw ⟨0, 5⟩ 1]
    let undone := (start.run uses).rollback
    (∀ op ∈ uses, op.IsUse) ∧
      start.unspent uses =
        [.draw ⟨0, 0⟩ 0, .draw ⟨0, 3⟩ 0, .refund 1, .draw ⟨0, 7⟩ 0, .draw ⟨0, 5⟩ 0] ∧
      undone = start.run (start.unspent uses) ∧ undone.rollback = undone := by
  intro start uses undone
  have each : ∀ op ∈ uses, op.IsUse := by decide
  exact ⟨each, by decide, rollback_undoes_granted (by decide) (by decide) _ each⟩

end Throttling.Bucket
