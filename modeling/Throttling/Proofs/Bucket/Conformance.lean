import Throttling.Proofs.Bucket.Operations
import Mathlib.Data.List.Induction

/-!
# Exact conformance

A bucket keeps a level and forgets the draws that led to it. What it decides is nevertheless a
condition on the whole history: from the empty bucket on, a draw is granted exactly if, counted from
any draw up to it, the units granted and its own units fit the capacity and what leaks in between
(`verdict_iff_windows_fit`). Neither the clamping of the level at zero nor the carried fractions
turn a verdict, and draws that were denied do not count.

The load carries the induction: at any later instant it is the largest excess of what was granted
since some draw over what has leaked since (`loadAt_run_add_le_iff`).
-/

set_option autoImplicit false

namespace Throttling.Bucket

/-! ## Histories -/

def Op.time? : Op → Option Timestamp
  | .draw now _ => some now
  | _ => none

def Op.units : Op → Nat
  | .draw _ units => units
  | _ => 0

def Op.Plain : Op → Prop
  | .draw _ _ | .commit => True
  | _ => False

instance : DecidablePred Op.Plain
  | .draw _ _ | .commit => inferInstanceAs (Decidable True)
  | .rollback | .refund _ | .revoke _ | .restore _ _ => inferInstanceAs (Decidable False)

/-- Draws at normal times, none before an earlier one, with commits anywhere in between. -/
structure Chronological (ops : List Op) : Prop where
  plain : ∀ op ∈ ops, op.Plain
  normal : ∀ op ∈ ops, op.Normal
  ordered : (ops.filterMap Op.time?).Pairwise fun earlier later => earlier ≤ later

instance (ops : List Op) : Decidable (Chronological ops) :=
  decidable_of_iff
    ((∀ op ∈ ops, op.Plain) ∧ (∀ op ∈ ops, op.Normal) ∧
      (ops.filterMap Op.time?).Pairwise fun earlier later => earlier ≤ later)
    ⟨fun h => ⟨h.1, h.2.1, h.2.2⟩, fun h => ⟨h.plain, h.normal, h.ordered⟩⟩

/-- The units that an operation is granted. -/
def gain (b : Bucket) (op : Op) : Nat := if b.grants op then op.units else 0

def granted (b : Bucket) : List Op → List Nat
  | [] => []
  | op :: ops => b.gain op :: (b.apply op).granted ops

/-- Units granted from the operation at `first` on up to the one at `last`, not counting that. -/
def grantedBetween (b : Bucket) (ops : List Op) (first last : Nat) : Nat :=
  (((b.granted ops).take last).drop first).sum

variable {b : Bucket} {ops : List Op} {op : Op} {now t : Timestamp} {units : Nat}

@[simp] theorem length_granted (b : Bucket) (ops : List Op) :
    (b.granted ops).length = ops.length := by
  induction ops generalizing b with
  | nil => rfl
  | cons op ops ih => simp [granted, ih]

theorem granted_append (b : Bucket) (ops more : List Op) :
    b.granted (ops ++ more) = b.granted ops ++ (b.run ops).granted more := by
  induction ops generalizing b with
  | nil => rfl
  | cons op ops ih =>
    simp only [List.cons_append, granted, ih]
    rfl

theorem take_granted (b : Bucket) (ops : List Op) (n : Nat) :
    (b.granted ops).take n = b.granted (ops.take n) := by
  induction ops generalizing b n with
  | nil => cases n <;> rfl
  | cons op ops ih =>
    cases n with
    | zero => rfl
    | succ n => simp only [granted, List.take_succ_cons, ih]

/-- Each verdict is what the bucket answers after the operations before it. -/
theorem getElem?_verdicts (b : Bucket) {ops : List Op} {j : Nat} (here : ops[j]? = some op) :
    (b.verdicts ops)[j]? = some ((b.run (ops.take j)).grants op) := by
  induction ops generalizing b j with
  | nil => cases here
  | cons first ops ih =>
    cases j with
    | zero =>
      cases here
      rfl
    | succ j => exact ih (b.apply first) here

/-- What is granted from a position on grows by what one more operation is granted. -/
theorem sum_drop_granted_concat (b : Bucket) {ops : List Op} (op : Op) {i : Nat}
    (inside : i ≤ ops.length) :
    ((b.granted (ops ++ [op])).drop i).sum =
      ((b.granted ops).drop i).sum + (b.run ops).gain op := by
  have reach : i ≤ (b.granted ops).length := by
    rw [length_granted]
    exact inside
  rw [granted_append, List.drop_append_of_le_length reach, List.sum_append]
  simp [granted]

namespace Chronological

theorem initial {more : List Op} (chronological : Chronological (ops ++ more)) :
    Chronological ops where
  plain := fun op member => chronological.plain op (List.mem_append_left more member)
  normal := fun op member => chronological.normal op (List.mem_append_left more member)
  ordered := by
    have ordered := chronological.ordered
    rw [List.filterMap_append] at ordered
    exact (List.pairwise_append.mp ordered).1

/-- No draw of a run is after one that follows. -/
theorem before (chronological : Chronological (ops ++ [.draw t units])) :
    ∀ earlier ∈ ops.filterMap Op.time?, earlier ≤ t := by
  intro earlier member
  have ordered := chronological.ordered
  rw [List.filterMap_append] at ordered
  exact (List.pairwise_append.mp ordered).2.2 earlier member t (by simp [Op.time?])

/-- The last operation of a run is a draw or a commit. -/
theorem last_cases (chronological : Chronological (ops ++ [op])) :
    (∃ t units, op = .draw t units) ∨ op = .commit := by
  have plain := chronological.plain op (by simp)
  cases op with
  | draw t units => exact Or.inl ⟨t, units, rfl⟩
  | commit => exact Or.inr rfl
  | rollback | refund | revoke | restore => cases plain

end Chronological

/-! ## The clock of a history -/

/-- The last decision of a run is one of its draws. -/
theorem lastDecision_run_mem (w : b.WellFormed) (times : b.NormalTime)
    (untimed : b.lastDecision = none) (chronological : Chronological ops) :
    ∀ last ∈ (b.run ops).lastDecision, last ∈ ops.filterMap Op.time? := by
  induction ops using List.reverseRecOn with
  | nil =>
    intro last member
    rw [show b.run [] = b from rfl, untimed] at member
    cases member
  | append_singleton ops op ih =>
    have earlier := ih chronological.initial
    have wellFormed := run_wellFormed w ops
    have normalTime := run_normalTime w times chronological.initial.normal
    rw [run_append, List.filterMap_append]
    intro last member
    rw [List.mem_append]
    rcases chronological.last_cases with ⟨t, units, rfl⟩ | rfl
    · have normal : t.Normal := chronological.normal (.draw t units) (by simp)
      have reached := fun last member => chronological.before last (earlier last member)
      change last ∈ ((b.run ops).apply (.draw t units)).lastDecision at member
      cases verdict : (b.run ops).grants (.draw t units) with
      | true =>
        rw [apply_of_granted wellFormed verdict] at member
        have time : ((b.run ops).levelAt t).time = t := by
          rw [(levelSpec wellFormed t).time]
          exact clock_eq_of_le reached normalTime normal
        have same : last = t := by
          rw [← time]
          exact (Option.some.inj member).symm
        exact Or.inr (by simp [Op.time?, same])
      | false =>
        rw [apply_of_denied verdict] at member
        exact Or.inl (earlier last member)
    · exact Or.inl (earlier last member)

/-! ## The load as an excess -/

private theorem getElem?_concat_eq_some_iff {α : Type} {xs : List α} {x y : α} {i : Nat} :
    (xs ++ [x])[i]? = some y ↔ xs[i]? = some y ∨ i = xs.length ∧ x = y := by
  rcases Nat.lt_trichotomy i xs.length with before | rfl | after
  · rw [List.getElem?_append_left before, or_iff_left fun last => Nat.ne_of_lt before last.1]
  · rw [List.getElem?_concat_length, List.getElem?_eq_none (Nat.le_refl _), Option.some_inj]
    simp
  · have beyond : (xs ++ [x]).length ≤ i := by
      rw [List.length_append, List.length_singleton]
      exact after
    rw [List.getElem?_eq_none beyond, List.getElem?_eq_none (Nat.le_of_lt after)]
    refine iff_of_false (by simp) fun either => ?_
    rcases either with inside | ⟨last, -⟩
    · cases inside
    · exact Nat.ne_of_gt after last

/-- One more operation at the end of a run adds what it is granted to every window, and opens one of
its own if it is a draw. -/
private theorem windows_concat_iff (b : Bucket) (ops : List Op) (op : Op)
    (P : Timestamp → Nat → Prop) :
    (∀ i start asked, (ops ++ [op])[i]? = some (.draw start asked) →
        P start ((b.granted (ops ++ [op])).drop i).sum) ↔
      (∀ i start asked, ops[i]? = some (.draw start asked) →
        P start (((b.granted ops).drop i).sum + (b.run ops).gain op)) ∧
      ∀ start asked, op = .draw start asked → P start ((b.run ops).gain op) := by
  have grown {i : Nat} (inside : i ≤ ops.length) := sum_drop_granted_concat b op inside
  have own := grown (Nat.le_refl ops.length)
  rw [List.drop_of_length_le (Nat.le_of_eq (length_granted b ops)), List.sum_nil,
    Nat.zero_add] at own
  constructor
  · intro windows
    constructor
    · intro i start asked here
      have inside := (List.getElem?_eq_some_iff.mp here).1
      have window := windows i start asked (getElem?_concat_eq_some_iff.mpr (Or.inl here))
      rw [grown (Nat.le_of_lt inside)] at window
      exact window
    · intro start asked last
      have window := windows ops.length start asked
        (getElem?_concat_eq_some_iff.mpr (Or.inr ⟨rfl, last⟩))
      rw [own] at window
      exact window
  · rintro ⟨windows, last⟩ i start asked here
    rcases getElem?_concat_eq_some_iff.mp here with here | ⟨rfl, same⟩
    · have inside := (List.getElem?_eq_some_iff.mp here).1
      rw [grown (Nat.le_of_lt inside)]
      exact windows i start asked here
    · rw [own]
      exact last start asked same

/-- Claimed units are load from the instant of the claim on, less what leaks since. -/
private theorem claim_add_le_iff {load claimed leaked extra bound : Nat} :
    load + claimed - leaked + extra ≤ bound ↔
      extra ≤ bound ∧ load + (claimed + extra) ≤ bound + leaked := by
  omega

/-- A window from before a draw splits at it, and what leaks in it does too. -/
private theorem windows_through_draw_iff (chronological : Chronological (ops ++ [.draw t units]))
    (normal : now.Normal) (later : t ≤ now) (extra bound : Nat) :
    (units * b.burstNanos + extra ≤ bound + now.nanosSince t * b.capacity ∧
        ∀ i start asked, ops[i]? = some (.draw start asked) →
          ((b.granted ops).drop i).sum * b.burstNanos + (units * b.burstNanos + extra) ≤
            bound + now.nanosSince t * b.capacity + t.nanosSince start * b.capacity) ↔
      (∀ i start asked, ops[i]? = some (.draw start asked) →
        (((b.granted ops).drop i).sum + units) * b.burstNanos + extra ≤
          bound + now.nanosSince start * b.capacity) ∧
      ∀ start asked, Op.draw t units = .draw start asked →
        units * b.burstNanos + extra ≤ bound + now.nanosSince start * b.capacity := by
  have ht : t.Normal := chronological.normal (.draw t units) (by simp)
  have split {i : Nat} {start : Timestamp} {asked : Nat}
      (here : ops[i]? = some (.draw start asked)) :
      now.nanosSince start * b.capacity =
        now.nanosSince t * b.capacity + t.nanosSince start * b.capacity := by
    have member := List.mem_of_getElem? here
    have ordered := chronological.before start
      (List.mem_filterMap.mpr ⟨.draw start asked, member, rfl⟩)
    rw [← Nat.add_mul, Timestamp.nanosSince_add_nanosSince
      (chronological.initial.normal _ member) ht normal ordered later]
  constructor
  · rintro ⟨own, windows⟩
    refine ⟨fun i start asked here => ?_, fun start asked same => ?_⟩
    · have window := windows i start asked here
      rw [split here, Nat.add_mul]
      omega
    · cases same
      exact own
  · rintro ⟨windows, own⟩
    refine ⟨own t units rfl, fun i start asked here => ?_⟩
    have window := windows i start asked here
    rw [split here, Nat.add_mul] at window
    omega

/-- At an instant after a run of draws and commits the load and `extra` stay within a bound exactly
if `extra` does, and for every draw of the run so do `extra` and what was granted from it on, once
what leaks since is added to the bound. -/
theorem loadAt_run_add_le_iff (w : b.WellFormed) (untimed : b.lastDecision = none)
    (empty : b.used = 0) (chronological : Chronological ops) (normal : now.Normal)
    (later : ∀ time ∈ ops.filterMap Op.time?, time ≤ now) (extra bound : Nat) :
    (b.run ops).loadAt now + extra ≤ bound ↔
      extra ≤ bound ∧ ∀ i start asked, ops[i]? = some (.draw start asked) →
        ((b.granted ops).drop i).sum * b.burstNanos + extra ≤
          bound + now.nanosSince start * b.capacity := by
  have times := normalTime_of_untimed untimed
  induction ops using List.reverseRecOn generalizing now extra bound with
  | nil =>
    have nothing : (b.run []).loadAt now = 0 := by simp [run, loadAt, load, empty]
    simp [nothing]
  | append_singleton ops op ih =>
    have initial := chronological.initial
    rw [List.filterMap_append] at later
    have earlier := fun time member => later time (List.mem_append_left _ member)
    have before : (b.run ops).loadAt now + extra ≤ bound ↔ _ :=
      ih initial normal earlier extra bound
    rw [run_append, windows_concat_iff b ops op fun start sum =>
      sum * b.burstNanos + extra ≤ bound + now.nanosSince start * b.capacity]
    rcases chronological.last_cases with ⟨t, units, rfl⟩ | rfl
    · cases verdict : (b.run ops).grants (.draw t units) with
      | false =>
        have nothing : (b.run ops).gain (.draw t units) = 0 := by simp [gain, verdict]
        rw [run_singleton, apply_of_denied verdict, before, nothing]
        simp only [Nat.add_zero, Nat.zero_mul, Nat.zero_add]
        -- the window that a denied draw opens is empty
        constructor
        · rintro ⟨small, windows⟩
          exact ⟨small, windows, fun _ _ _ => Nat.le_add_right_of_le small⟩
        · rintro ⟨small, windows, -⟩
          exact ⟨small, windows⟩
      | true =>
        have ht : t.Normal := chronological.normal (.draw t units) (by simp)
        have wellFormed := run_wellFormed w ops
        have normalTime := run_normalTime w times initial.normal
        have reached : ∀ last ∈ (b.run ops).lastDecision, last ≤ t := fun last member =>
          chronological.before last (lastDecision_run_mem w times untimed initial last member)
        have gained : (b.run ops).gain (.draw t units) = units := by simp [gain, verdict, Op.units]
        rw [run_singleton, apply_of_granted wellFormed verdict, gained,
          loadAt_claim_of_le wellFormed normalTime reached ht normal, claim_add_le_iff,
          burstNanos_run, capacity_run]
        have sofar : (b.run ops).loadAt t + (units * b.burstNanos + extra) ≤
            bound + now.nanosSince t * b.capacity ↔ _ :=
          ih initial ht chronological.before _ _
        rw [sofar]
        exact and_congr_right fun _ =>
          windows_through_draw_iff chronological normal (later t (by simp [Op.time?])) extra bound
    · have unchanged : ((b.run ops).run [.commit]).loadAt now = (b.run ops).loadAt now := rfl
      have nothing : (b.run ops).gain .commit = 0 := ite_self 0
      rw [unchanged, before, nothing]
      simp

/-- At a draw of a run there is room for `extra` units exactly if all windows that end at it leave
that room. -/
private theorem room_iff_windows (w : b.WellFormed) (untimed : b.lastDecision = none)
    (empty : b.used = 0) (chronological : Chronological ops) {j : Nat}
    (here : ops[j]? = some (.draw now units)) (extra : Nat) :
    (b.run (ops.take j)).loadAt now + extra * b.burstNanos ≤ b.capacity * b.burstNanos ↔
      ∀ i start asked, i ≤ j → ops[i]? = some (.draw start asked) →
        (b.grantedBetween ops i j + extra) * b.burstNanos ≤
          b.capacity * b.burstNanos + b.capacity * now.nanosSince start := by
  have normal : now.Normal := chronological.normal _ (List.mem_of_getElem? here)
  have upTo : Chronological (ops.take j ++ [.draw now units]) := by
    have whole := chronological
    rw [← List.take_append_drop (j + 1) ops, List.take_add_one, here] at whole
    exact whole.initial
  have room := loadAt_run_add_le_iff w untimed empty upTo.initial normal upTo.before
    (extra * b.burstNanos) (b.capacity * b.burstNanos)
  -- the window from the draw itself: nothing granted yet, no time passed
  have closed : (b.granted (ops.take j)).drop j = [] := List.drop_of_length_le (by simp)
  have still := Timestamp.nanosSince_eq_zero_of_le normal normal (Timestamp.le_refl now)
  simp only [grantedBetween, take_granted, Nat.add_mul, Nat.mul_comm b.capacity (_ : Nat)]
  rw [Nat.mul_comm b.capacity] at room
  rw [room]
  constructor
  · rintro ⟨small, windows⟩ i start asked within at_i
    rcases Nat.lt_or_eq_of_le within with before | rfl
    · refine windows i start asked ?_
      rw [List.getElem?_take_of_lt before]
      exact at_i
    · rw [closed, List.sum_nil, Nat.zero_mul, Nat.zero_add]
      exact Nat.le_add_right_of_le small
  · intro windows
    constructor
    · have own := windows j now units (Nat.le_refl j) here
      rw [closed, List.sum_nil, Nat.zero_mul, Nat.zero_add, still, Nat.zero_mul] at own
      exact own
    · intro i start asked at_i
      have before : i < j := by
        have inside := (List.getElem?_eq_some_iff.mp at_i).1
        rw [List.length_take] at inside
        omega
      rw [List.getElem?_take_of_lt before] at at_i
      exact windows i start asked (Nat.le_of_lt before) at_i

/-- Exact conformance: among draws and commits on an empty bucket, a draw is granted exactly if for
every draw up to it the units granted from there on together with its own fit the capacity and what
leaks in between. So no window is ever granted more than that. -/
theorem verdict_iff_windows_fit {capacity burstNanos : Nat} (positive : 0 < capacity)
    (hc : capacity ≤ Word.max64) (hb : burstNanos ≤ Word.max64) {ops : List Op}
    (chronological : Chronological ops) :
    let b := new capacity burstNanos
    ∀ j now units, ops[j]? = some (.draw now units) →
      ((b.verdicts ops)[j]? = some true ↔
        ∀ i start asked, i ≤ j → ops[i]? = some (.draw start asked) →
          (b.grantedBetween ops i j + units) * b.burstNanos ≤
            capacity * b.burstNanos + capacity * now.nanosSince start) ∧
      ∀ i start asked, i ≤ j → ops[i]? = some (.draw start asked) →
        b.grantedBetween ops i (j + 1) * b.burstNanos ≤
          capacity * b.burstNanos + capacity * now.nanosSince start := by
  intro b j now units here
  have w : b.WellFormed := new_wellFormed hc hb
  have before := run_wellFormed w (ops.take j)
  have room := room_iff_windows w rfl rfl chronological here
  have fits : (b.run (ops.take j)).grants (.draw now units) = true ↔
      (b.run (ops.take j)).loadAt now + units * b.burstNanos ≤ capacity * b.burstNanos := by
    have own := grants_draw_iff before (by rw [capacity_run]; exact positive) now units
    rw [capacity_run, burstNanos_run] at own
    exact own
  constructor
  · rw [getElem?_verdicts b here, Option.some_inj, fits]
    exact room units
  · -- what the draw itself is granted fits, whether that is its units or nothing
    have gained : (b.run (ops.take j)).loadAt now + (b.run (ops.take j)).gain (.draw now units) *
        b.burstNanos ≤ capacity * b.burstNanos := by
      unfold gain
      split
      · rename_i granted
        exact fits.mp granted
      · have inside := load_le before
        rw [capacity_run, burstNanos_run] at inside
        rw [Nat.zero_mul]
        exact Nat.le_trans (loadAt_le_load _ now) inside
    intro i start asked within at_i
    have grown : b.grantedBetween ops i (j + 1) =
        b.grantedBetween ops i j + (b.run (ops.take j)).gain (.draw now units) := by
      have inside : i ≤ (ops.take j).length := by
        have := (List.getElem?_eq_some_iff.mp here).1
        rw [List.length_take]
        omega
      rw [grantedBetween, grantedBetween, take_granted, take_granted, List.take_add_one, here]
      exact sum_drop_granted_concat b (.draw now units) inside
    rw [grown]
    exact (room _).mp gained i start asked within at_i

/-- At three units in ten nanoseconds a unit comes free only every third or fourth nanosecond: a
draw after the third is denied for the tenth that is missing, and so is one two nanoseconds after
the next that is granted. -/
theorem verdict_iff_windows_fit_between_units :
    let ops : List Op := [.draw ⟨0, 0⟩ 3, .commit, .draw ⟨0, 3⟩ 1, .draw ⟨0, 4⟩ 1, .draw ⟨0, 6⟩ 1,
      .draw ⟨0, 7⟩ 1]
    Chronological ops ∧ (new 3 10).verdicts ops = [true, true, false, true, false, true] ∧
      (¬ ∀ i start asked, i ≤ 4 → ops[i]? = some (.draw start asked) →
        ((new 3 10).grantedBetween ops i 4 + 1) * 10 ≤
          3 * 10 + 3 * Timestamp.nanosSince ⟨0, 6⟩ start) ∧
      (new 3 10).grantedBetween ops 0 6 * 10 ≤ 3 * 10 + 3 * Timestamp.nanosSince ⟨0, 7⟩ ⟨0, 0⟩ := by
  intro ops
  have chronological : Chronological ops := by decide
  have verdicts : (new 3 10).verdicts ops = [true, true, false, true, false, true] := by decide
  have conforms := verdict_iff_windows_fit (by decide : 0 < 3) (by decide)
    (by decide : 10 ≤ Word.max64) chronological
  refine ⟨chronological, verdicts, fun windows => ?_, ?_⟩
  · have granted := (conforms 4 ⟨0, 6⟩ 1 rfl).1.mpr windows
    rw [verdicts] at granted
    cases granted
  · exact (conforms 5 ⟨0, 7⟩ 1 rfl).2 0 ⟨0, 0⟩ 3 (by decide) rfl

end Throttling.Bucket
