import Throttling.Proofs.Bucket.Alike
import Throttling.Proofs.Pointwise
import Throttling.Proofs.Rates

/-!
# No functionality is starved

A bucket compiles only if a single operation of each of its groups fits the capacity, counted in the
units in which the throttle is drawn from. Whatever a compiled set has been used for, a throttle
keeps its limits and holds no units without a decision time, so a burst period without a decision
empties it. From then on one unit of each functionality is granted (`draw_granted_of_rested`):
no document, no split and no run makes a functionality of the set one that is always denied.
-/

set_option autoImplicit false

namespace Throttling

/-! ## Throttles that time empties -/

namespace Throttle

/-- The throttle is well formed, its last decision was at a normal time, and it holds no units
without one. -/
structure Drains (t : Throttle) : Prop where
  wellFormed : t.bucket.WellFormed
  times : t.bucket.NormalTime
  timed : t.bucket.Timed

/-- At least one burst period has gone by at `now` since the last decision, if there was one. -/
def RestedAt (t : Throttle) (now : Timestamp) : Prop :=
  ∀ last ∈ t.bucket.lastDecision, last.toNanos + t.bucket.burstNanos ≤ now.toNanos

instance (t : Throttle) (now : Timestamp) : Decidable (t.RestedAt now) :=
  inferInstanceAs (Decidable (∀ last ∈ t.bucket.lastDecision, _ ≤ _))

/-- A unit at this cost fits the capacity, which is not zero. -/
def Covers (t : Throttle) (milliOps : Nat) : Prop :=
  t.capacity ≠ 0 ∧ t.units (Tariff.amount milliOps 1 .one) ≤ t.capacity

/-- The limits of the one throttle are those of the other, and it drains if the other does. -/
structure Keeps (t t' : Throttle) : Prop where
  capacity : t'.capacity = t.capacity
  unitsPerAmount : t'.unitsPerAmount = t.unitsPerAmount
  drains : t.Drains → t'.Drains

variable {t t' : Throttle} {now : Timestamp}

theorem Keeps.refl (t : Throttle) : t.Keeps t := ⟨rfl, rfl, id⟩

theorem Keeps.trans {t'' : Throttle} (first : t.Keeps t') (second : t'.Keeps t'') :
    t.Keeps t'' where
  capacity := second.capacity.trans first.capacity
  unitsPerAmount := second.unitsPerAmount.trans first.unitsPerAmount
  drains := fun drains => second.drains (first.drains drains)

theorem Keeps.covers (keeps : t.Keeps t') {milliOps : Nat} (covers : t.Covers milliOps) :
    t'.Covers milliOps := by
  unfold Covers units at *
  rw [keeps.capacity, keeps.unitsPerAmount]
  exact covers

/-- A draw gives a throttle the time that it may lack. -/
theorem Touched.keeps (touched : Touched now t t') (normal : now.Normal) : t.Keeps t' := by
  rcases touched with rfl | ⟨units, fits, rfl⟩
  · exact Keeps.refl _
  · refine ⟨rfl, rfl, fun drains => ?_⟩
    exact ⟨Bucket.claim_wellFormed drains.wellFormed fits,
      Bucket.claim_normalTime drains.wellFormed drains.times normal units,
      fun untimed => by cases untimed⟩

theorem keeps_commit (t : Throttle) : t.Keeps t.commit where
  capacity := rfl
  unitsPerAmount := rfl
  drains := fun drains =>
    ⟨Bucket.commit_wellFormed drains.wellFormed, drains.times, drains.timed⟩

private theorem timed_release (timed : t.bucket.Timed) (units : Nat) :
    (t.bucket.release units).Timed := by
  intro untimed
  have empty : t.bucket.used = 0 := timed untimed
  simp only [Bucket.release, empty, Nat.zero_sub]

theorem keeps_rollback (t : Throttle) : t.Keeps t.rollback where
  capacity := rfl
  unitsPerAmount := rfl
  drains := fun drains =>
    ⟨Bucket.rollback_wellFormed drains.wellFormed, drains.times, timed_release drains.timed _⟩

theorem keeps_refund (t : Throttle) (amount : Nat) : t.Keeps (t.refund amount) where
  capacity := rfl
  unitsPerAmount := rfl
  drains := fun drains =>
    ⟨Bucket.refund_wellFormed drains.wellFormed _, drains.times, timed_release drains.timed _⟩

/-- A burst period without a decision frees the whole capacity. -/
theorem Drains.free_of_rested (drains : t.Drains) (normal : now.Normal) (rested : t.RestedAt now) :
    t.free now = t.capacity := by
  have empty : (t.bucket.levelAt now).used = 0 := by
    cases decision : t.bucket.lastDecision with
    | none =>
      have used := (Bucket.levelSpec drains.wellFormed now).used_le
      rw [drains.timed decision] at used
      exact Nat.le_zero.mp used
    | some last =>
      have later := rested last decision
      refine Bucket.levelAt_used_of_burst drains.wellFormed drains.times normal decision ?_
      unfold Timestamp.nanosSince
      omega
  rw [free, Bucket.free, empty, Nat.sub_zero, capacity]

end Throttle

private theorem forall₂_keeps_refl (throttles : List Throttle) :
    List.Forall₂ Throttle.Keeps throttles throttles :=
  List.forall₂_same.mpr fun t _ => Throttle.Keeps.refl t

/-- Giving a quantity back keeps each throttle. -/
theorem Tariff.refund_keeps (t : Tariff) (throttles : List Throttle) (quantity : Nat) :
    List.Forall₂ Throttle.Keeps throttles (t.refund throttles quantity) := by
  unfold Tariff.refund
  suffices step : ∀ ts, List.Forall₂ Throttle.Keeps throttles ts →
      List.Forall₂ Throttle.Keeps throttles (t.requirements.foldl
        (fun ts r => ts.modify r.throttle (·.refund (Word.saturate64 (r.milliOps * quantity)))) ts)
    from step throttles (forall₂_keeps_refl throttles)
  induction t.requirements with
  | nil => exact fun ts keeps => keeps
  | cons r rs ih =>
    intro ts keeps
    exact ih _ (forall₂_modify_right keeps _ fun _ b kept => kept.trans (b.keeps_refund _))

namespace ThrottleSet

/-! ## Moves -/

/-- What a compiled set is used for: draws, draws undone, commits and rollbacks of what is
provisional, and amounts recorded for a position that are reclaimed. -/
inductive Move where
  | draw (function : Functionality) (now : Timestamp) (quantity : Nat) (scale : ScaleFactor)
  | undo (function : Functionality) (quantity : Nat)
  | commit
  | rollback
  | reclaim (position amount : Nat)
  deriving DecidableEq, Repr

def Move.Normal : Move → Prop
  | draw _ now _ _ => now.Normal
  | _ => True

instance (m : Move) : Decidable m.Normal := by
  cases m <;> unfold Move.Normal <;> infer_instance

/-- The set after a move. What has no tariff is neither drawn nor undone. -/
def move (s : ThrottleSet) : Move → ThrottleSet
  | .draw function now quantity scale =>
    ((s.draw? function now quantity scale).map (·.set)).getD s
  | .undo function quantity => (s.refund function quantity).toOption.getD s
  | .commit => s.commit
  | .rollback => s.rollback
  | .reclaim position amount =>
    { s with throttles := s.throttles.modify position (·.refund amount) }

def after (s : ThrottleSet) (moves : List Move) : ThrottleSet := moves.foldl move s

/-- Every throttle drains, and one unit of each functionality fits each throttle that it names. -/
structure Fair (s : ThrottleSet) : Prop where
  ordered : s.Ordered
  drains : ∀ t ∈ s.throttles, t.Drains
  covers : ∀ function, ∀ r ∈ s.requirements function,
    ∃ t, s.throttles[r.throttle]? = some t ∧ t.Covers r.milliOps

variable {s s' : ThrottleSet}

theorem Fair.wellFormed (fair : s.Fair) : Portion.AllWellFormed s.throttles :=
  fun t member => (fair.drains t member).wellFormed

/-- A set stays fair while its costs stay and each throttle keeps its limits and drains. -/
theorem Fair.of_keeps (fair : s.Fair) (costs : s'.costs = s.costs)
    (keeps : List.Forall₂ Throttle.Keeps s.throttles s'.throttles) : s'.Fair where
  ordered := by
    unfold Ordered
    rw [costs]
    exact fair.ordered
  drains := by
    intro t' member
    obtain ⟨position, inside, rfl⟩ := List.getElem_of_mem member
    obtain ⟨length, each⟩ := List.forall₂_iff_get.mp keeps
    have before : position < s.throttles.length := by
      rw [length]
      exact inside
    exact (each position before inside).drains (fair.drains _ (List.getElem_mem before))
  covers := by
    intro function r member
    rw [requirements, costs, ← requirements] at member
    obtain ⟨t, found, covers⟩ := fair.covers function r member
    obtain ⟨length, each⟩ := List.forall₂_iff_get.mp keeps
    obtain ⟨before, rfl⟩ := List.getElem?_eq_some_iff.mp found
    have inside : r.throttle < s'.throttles.length := by
      rw [← length]
      exact before
    exact ⟨_, List.getElem?_eq_getElem inside, (each _ before inside).covers covers⟩

/-- Every move keeps a set fair. -/
theorem Fair.move (fair : s.Fair) {m : Move} (normal : m.Normal) : (s.move m).Fair := by
  cases m with
  | draw function now quantity scale =>
    simp only [ThrottleSet.move, draw?, Option.map_map]
    cases s.tariff? function with
    | none => exact fair
    | some tariff =>
      refine fair.of_keeps rfl ?_
      simp only [Tariff.draw_eq]
      exact (Portion.drawAll_touched fair.wellFormed).imp
        fun _ _ touched => touched.keeps normal
  | undo function quantity =>
    simp only [ThrottleSet.move, refund]
    cases s.tariff? function with
    | none => exact fair
    | some tariff => exact fair.of_keeps rfl (tariff.refund_keeps _ quantity)
  | commit =>
    exact fair.of_keeps rfl (List.forall₂_map_right_iff.mpr
      (List.forall₂_same.mpr fun t _ => t.keeps_commit))
  | rollback =>
    exact fair.of_keeps rfl (List.forall₂_map_right_iff.mpr
      (List.forall₂_same.mpr fun t _ => t.keeps_rollback))
  | reclaim position amount =>
    exact fair.of_keeps rfl (forall₂_modify_right (forall₂_keeps_refl _) position
      fun _ b kept => kept.trans (b.keeps_refund amount))

/-- Every run keeps a set fair. -/
theorem Fair.after (fair : s.Fair) {moves : List Move} (normal : ∀ m ∈ moves, m.Normal) :
    (s.after moves).Fair := by
  induction moves generalizing s with
  | nil => exact fair
  | cons m ms ih =>
    obtain ⟨first, rest⟩ := List.forall_mem_cons.mp normal
    exact ih (fair.move first) rest

/-! ## Compiled sets -/

/-- The throttle of a bucket that compiles covers each cost of the bucket. -/
theorem covers_of_compile {b : BucketDefinition} {split : Nat} {c : CompiledBucket}
    (compiled : b.compile split = .ok c) {function : Functionality} {milliOps : Nat}
    (cost : (function, milliOps) ∈ c.costs) : c.throttle.Covers milliOps := by
  obtain ⟨logicalRate, compiles⟩ := BucketDefinition.compiles_of_compile compiled
  have accepted := compiles.accepted
  rw [accepted.costs_eq] at cost
  obtain ⟨group, member, listed⟩ := List.mem_flatMap.mp cost
  obtain ⟨_, -, same⟩ := List.mem_map.mp listed
  cases same
  have inRange := accepted.cost_le group member
  have fits := accepted.fits group member
  have positive := compiles.groupCost_pos member
  have unit : c.throttle.unitsPerAmount = microsPerMilli := by
    rw [(Throttle.operations_eq_ok compiles.throttle).2]
  -- one unit at scale one costs what the bucket was checked for
  have amount : Tariff.amount (BucketDefinition.groupCost logicalRate group) 1 .one =
      BucketDefinition.groupCost logicalRate group := by
    simp only [Tariff.amount, ScaleFactor.apply, ScaleFactor.one, Nat.mul_one, Nat.div_one,
      Word.saturate64_of_le inRange]
    omega
  have checked : c.throttle.units (BucketDefinition.groupCost logicalRate group) ≤
      c.throttle.capacity := by
    rw [Throttle.units, unit]
    exact fits
  refine ⟨?_, by rw [amount]; exact checked⟩
  unfold Word.saturate64 Word.max64 milliOpsPerOp at fits
  omega

theorem compile_fair (definitions : Definitions) (split generation : Nat) :
    (compile definitions split generation).Fair where
  ordered := compile_ordered definitions split generation
  drains := by
    intro t member
    obtain ⟨c, listed, rfl⟩ := List.mem_map.mp member
    obtain ⟨b, -, compiled⟩ := mem_accepted_iff.mp listed
    obtain ⟨logicalRate, compiles⟩ := BucketDefinition.compiles_of_compile compiled
    have untouched := (Throttle.operations_eq_ok compiles.throttle).2
    refine ⟨BucketDefinition.wellFormed_of_compile compiled,
      Bucket.normalTime_of_untimed ?_, fun _ => ?_⟩ <;> rw [untouched] <;> rfl
  covers := by
    intro function r member
    obtain ⟨c, here, cost⟩ := exists_of_mem_requirements member
    obtain ⟨b, -, compiled⟩ := mem_accepted_iff.mp (List.mem_of_getElem? here)
    exact ⟨c.throttle, getElem?_compile here generation, covers_of_compile compiled cost⟩

/-! ## Draws after a rest -/

/-- In a fair set one unit of a functionality is granted when its throttles have rested. -/
theorem Fair.granted_of_rested (fair : s.Fair) {function : Functionality}
    (listed : (s.tariff? function).isSome = true) {now : Timestamp} (normal : now.Normal)
    (rested : ∀ t ∈ s.throttlesFor function, t.RestedAt now) :
    ∃ draw, s.draw? function now 1 .one = some draw ∧ draw.granted = true := by
  obtain ⟨tariff, found⟩ := Option.isSome_iff_exists.mp listed
  refine (draw?_granted_iff fair.ordered fair.wellFormed).mpr ⟨tariff, found, fun r member => ?_⟩
  have own : r ∈ s.requirements function := requirements_of_tariff? found ▸ member
  obtain ⟨t, there, covers⟩ := fair.covers function r own
  have named : t ∈ s.throttlesFor function := by
    rw [throttlesFor, found]
    exact List.mem_filterMap.mpr ⟨r, member, there⟩
  have free := (fair.drains t (List.mem_of_getElem? there)).free_of_rested normal
    (rested t named)
  refine ⟨t, there, covers.1, ?_⟩
  rw [free]
  exact covers.2

/-- Whatever the document, the split and the use of the compiled set at normal times, one unit of a
functionality of the set is granted at any normal time that is a burst period after the last decision
of each of its throttles. -/
theorem draw_granted_of_rested (definitions : Definitions) (split generation : Nat)
    {moves : List Move} (normal : ∀ m ∈ moves, m.Normal) {function : Functionality}
    (listed : (((compile definitions split generation).after moves).tariff? function).isSome = true)
    {now : Timestamp} (instant : now.Normal)
    (rested : ∀ t ∈ ((compile definitions split generation).after moves).throttlesFor function,
      t.RestedAt now) :
    (((compile definitions split generation).after moves).draw? function now 1 .one).map
      (·.granted) = some true := by
  have fair := (compile_fair definitions split generation).after normal
  obtain ⟨draw, drawn, granted⟩ := fair.granted_of_rested listed instant rested
  rw [drawn, Option.map_some, granted]

/-- A functionality that two buckets list, with the capacity split two ways, so that a unit of it
takes up all of the smaller bucket. The larger one is filled, a draw is denied by the smaller one,
and a part of what was drawn is undone or reclaimed. A unit is granted when two seconds, the longer
of the burst periods, have gone by. -/
theorem draw_granted_of_rested_two_buckets :
    let definitions : Definitions :=
      ⟨[⟨"shared", 2, 0, [⟨10, 0, [.cryptoTransfer, .cryptoCreate]⟩, ⟨4, 0, [.tokenMint]⟩]⟩,
        ⟨"creation", 1, 0, [⟨2, 0, [.cryptoCreate]⟩]⟩]⟩
    let moves : List Move :=
      [.draw .tokenMint ⟨100, 0⟩ 4 .one, .commit, .draw .cryptoCreate ⟨101, 0⟩ 1 .one, .commit,
        .draw .cryptoCreate ⟨101, 500000000⟩ 1 .one, .draw .tokenMint ⟨101, 500000000⟩ 2 .one,
        .rollback, .draw .tokenMint ⟨101, 500000000⟩ 2 .one, .undo .tokenMint 1, .reclaim 1 500]
    let s := (compile definitions 2 7).after moves
    (∀ m ∈ moves, m.Normal) ∧ (s.tariff? .cryptoCreate).isSome = true ∧
      s.throttles.map (fun t => (t.capacity, t.used, t.bucket.lastDecision)) =
        [(140000000, 84000000, some ⟨101, 500000000⟩), (1000000, 500000, some ⟨101, 0⟩)] ∧
      (∀ t ∈ s.throttlesFor .cryptoCreate, t.RestedAt ⟨103, 500000000⟩) ∧
      (s.draw? .cryptoCreate ⟨103, 500000000⟩ 1 .one).map (·.granted) = some true := by
  intro definitions moves s
  have normal : ∀ m ∈ moves, m.Normal := by decide
  have listed : (s.tariff? .cryptoCreate).isSome = true := by decide +kernel
  have rested : ∀ t ∈ s.throttlesFor .cryptoCreate, t.RestedAt ⟨103, 500000000⟩ := by
    decide +kernel
  exact ⟨normal, listed, by decide +kernel, rested,
    draw_granted_of_rested definitions 2 7 normal listed (by decide) rested⟩

end ThrottleSet

end Throttling
