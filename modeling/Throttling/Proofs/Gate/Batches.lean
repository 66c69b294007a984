import Throttling.Proofs.Gate.Queries
import Throttling.Proofs.Gate.Reclamation

/-!
# Batches given back

A batch is charged the cost of each requirement times its count, and at least one milli-operation;
what is given back for it is the bare product. No cost is zero, so for a positive count the two are
the same amounts, also where they saturate, and giving the batch back is reclaiming what it drew
(`refundBatch_of_drawn`). An empty batch is charged the minimum all the same.

A refund carries amounts and no time. So the throttles are as free as they were before the batch,
then and later, exactly if those of the functionality were steady (`refundBatch_decideBatch`).
-/

set_option autoImplicit false

namespace Throttling

variable {g h : Gate} {now : Timestamp} {function : Functionality} {count : Nat}

/-! ## Refunds and usages -/

/-- Reclaiming usages of operations refunds their amounts in turn. -/
theorem reclaim_of_requirements (g : Gate) (amount : Requirement → Nat) (rs : List Requirement)
    (throttles : List Throttle) :
    Gate.reclaim { g with operations := { g.operations with throttles } }
        (rs.map fun r => ⟨.operations r.throttle, amount r, g.operations.generation⟩) =
      { g with
        operations :=
          { g.operations with
            throttles := rs.foldl (fun ts r => ts.modify r.throttle (·.refund (amount r)))
              throttles } } := by
  induction rs generalizing throttles with
  | nil => rfl
  | cons r rs ih =>
    have own : Gate.reclaimUsage { g with operations := { g.operations with throttles } }
          ⟨.operations r.throttle, amount r, g.operations.generation⟩ =
        { g with
          operations :=
            { g.operations with
              throttles := throttles.modify r.throttle (·.refund (amount r)) } } :=
      if_pos rfl
    rw [List.map_cons, Gate.reclaim, List.foldl_cons, own]
    exact ih _

/-- A functionality with a tariff can be given back, whatever has been drawn. -/
theorem refundBatch_of_tariff (active : g.stage ≠ .passthrough) {tariff : Tariff}
    (found : g.operations.tariff? function = some tariff) (throttles : List Throttle)
    (count : Nat) :
    Gate.refundBatch { g with operations := { g.operations with throttles } } count function =
      .ok { g with
        operations := { g.operations with throttles := tariff.refund throttles count } } := by
  have same : ThrottleSet.tariff? { g.operations with throttles } function = some tariff := found
  rw [Gate.refundBatch, if_neg active]
  dsimp only
  rw [ThrottleSet.refund, same]

/-- Giving back a batch that has just been drawn is reclaiming what was drawn for it. -/
theorem refundBatch_of_drawn {draw : ThrottleSet.Draw} (active : g.stage ≠ .passthrough)
    (drawn : g.operations.draw? function now count .one = some draw)
    (granted : draw.granted = true)
    (positive : ∀ tariff ∈ g.operations.tariff? function, ∀ r ∈ tariff.requirements,
      0 < r.milliOps * count) :
    Gate.refundBatch { g with operations := draw.set } count function =
      .ok (Gate.reclaim { g with operations := draw.set } draw.usages) := by
  obtain ⟨tariff, found, rfl⟩ := Option.map_eq_some_iff.mp drawn
  have usages := (Tariff.usages_of_granted granted).trans
    (ThrottleSet.usages_one found (positive tariff found))
  dsimp only
  rw [usages, refundBatch_of_tariff active found]
  exact congrArg Except.ok (reclaim_of_requirements g _ tariff.requirements _).symm

/-! ## Batches -/

def Gate.freeOperations (g : Gate) (time : Timestamp) : List Nat :=
  g.operations.throttles.map (·.free time)

theorem getElem?_freeOperations (g : Gate) (time : Timestamp) (index : Nat) :
    (g.freeOperations time)[index]? = (g.throttle? (.operations index)).map (·.free time) :=
  List.getElem?_map

/-- A draw from operations alone is reclaimed without a trace if it shows on no throttle of
operations. -/
theorem forall_free_reclaim_iff {usages : List Usage}
    (drew : g.commit.Drew [.operations] now usages h) (w : g.WellFormed) :
    (∀ time, now ≤ time → (h.reclaim usages).freeOperations time = g.freeOperations time) ↔
      ∀ ref time, now ≤ time → ((h.reclaim usages).throttle? ref).map (·.free time) =
        (g.throttle? ref).map (·.free time) := by
  have unnamed {ref : ThrottleRef} (other : ref.kind ≠ .operations) :
      Usage.names usages ref = false := by
    refine Usage.names_eq_false_iff.mpr fun named => ?_
    obtain ⟨u, member, rfl⟩ := List.mem_map.mp named
    exact other (List.mem_singleton.mp (drew.kind u member))
  constructor
  · intro same ref time later
    cases ref with
    | operations index =>
      rw [← getElem?_freeOperations, ← getElem?_freeOperations, same time later]
    | gas | bytes | opsDuration =>
      rw [drew.free_reclaim w, unnamed (by decide)]
      rfl
  · intro same time later
    refine List.ext_getElem? fun index => ?_
    rw [getElem?_freeOperations, getElem?_freeOperations]
    exact same (.operations index) time later

/-- The throttles that a draw names are those of the functionality. -/
theorem forall_usages_iff {draw : ThrottleSet.Draw} {quantity : Nat} {scale : ScaleFactor}
    (drawn : g.commit.operations.draw? function now quantity scale = some draw)
    (granted : draw.granted = true) (P : Throttle → Prop) :
    (∀ u ∈ draw.usages, ∀ t ∈ g.throttle? u.throttle, P t) ↔
      ∀ t ∈ g.throttlesFor function, P t := by
  obtain ⟨tariff, found, rfl⟩ := Option.map_eq_some_iff.mp drawn
  have own : g.operations.tariff? function = some tariff := found
  have usages := Tariff.usages_of_granted granted
  dsimp only
  rw [usages, Gate.throttlesFor, ThrottleSet.throttlesFor, own]
  simp only [Tariff.portions, List.forall_mem_map, Tariff.usage, Tariff.throttlesIn,
    List.forall_mem_filterMap]
  rfl

/-- An admitted batch can be given back. Unless it was empty, the throttles of operations are then
as free as they were before it, at the time of the batch and later, exactly if those that the
functionality draws from were steady. -/
theorem refundBatch_decideBatch {allowed : Call → Prop} (reached : g.Reached allowed)
    (active : g.stage ≠ .passthrough) (normal : now.Normal) {decided : Outcome Bool}
    (decision : g.decideBatch count function now = decided) (admitted : decided.result = false) :
    ∃ h, decided.gate.refundBatch count function = .ok h ∧
      (0 < count →
        ((∀ time, now ≤ time → h.freeOperations time = g.freeOperations time) ↔
          ∀ t ∈ g.throttlesFor function, t.bucket.Steady now)) := by
  subst decision
  unfold Gate.decideBatch at admitted ⊢
  rw [if_neg active] at admitted ⊢
  obtain ⟨draw, drawn, granted⟩ := decideOperations_admits.mp admitted
  rw [decideOperations_of_granted drawn granted]
  obtain empty | positive := Nat.eq_zero_or_pos count
  · obtain ⟨tariff, found, rfl⟩ := Option.map_eq_some_iff.mp drawn
    exact ⟨_, refundBatch_of_tariff (g := g.commit) active found _ count,
      fun positive => absurd empty (Nat.ne_of_gt positive)⟩
  · have given := refundBatch_of_drawn (g := g.commit) active drawn granted
      fun tariff found r member => Nat.mul_pos (reached.milliOps_pos found r member) positive
    refine ⟨_, given, fun _ => ?_⟩
    have drew := set_draw?_drew (commit_wellFormed reached.wellFormed) reached.ordered drawn granted
    rw [forall_free_reclaim_iff drew reached.wellFormed,
      drew.free_reclaim_iff reached.wellFormed normal]
    exact forall_usages_iff drawn granted _

/-- Half a second after a batch that has drawn all of two buckets, a batch of two is admitted and
given back. -/
theorem refundBatch_decideBatch_timed :
    let definitions : Definitions := ⟨[⟨"calls", 1, 0, [⟨10, 0, [.contractCall]⟩]⟩,
      ⟨"all", 2, 0, [⟨5, 0, [.contractCall, .cryptoTransfer]⟩]⟩]⟩
    let g := (Gate.new .consensus).run
      [.rebuild definitions, .batch 10 .contractCall ⟨100, 0⟩]
    let now : Timestamp := ⟨100, 500000000⟩
    let decided := g.decideBatch 2 .contractCall now
    g.Reached (fun _ => True) ∧ decided.result = false ∧
      g.freeOperations now = [5000000, 2500000] ∧
      decided.gate.freeOperations now = [3000000, 500000] ∧
      ∃ h, decided.gate.refundBatch 2 .contractCall = .ok h ∧
        ∀ time, now ≤ time → h.freeOperations time = g.freeOperations time := by
  intro definitions g now decided
  have reached : g.Reached fun _ => True := ⟨.consensus, _, fun _ _ => trivial, rfl⟩
  have admitted : decided.result = false := by decide +kernel
  obtain ⟨h, given, inverse⟩ := refundBatch_decideBatch reached (by decide +kernel) (by decide)
    (show g.decideBatch 2 .contractCall now = decided from rfl) admitted
  have steady : ∀ t ∈ g.throttlesFor .contractCall, t.bucket.Steady now := by decide +kernel
  exact ⟨reached, admitted, by decide +kernel, by decide +kernel, h, given,
    (inverse (by decide)).mpr steady⟩

/-- Any admitted batch of `count` can be given back, and then the throttles of operations are as
free as they were before it. -/
def Gate.ReversesBatches (count : Nat) : Prop :=
  ∀ {g : Gate} {now : Timestamp}, g.Reached (fun _ => True) → g.stage ≠ .passthrough →
    now.Normal → ∀ function, (g.decideBatch count function now).result = false →
      ∃ h, (g.decideBatch count function now).gate.refundBatch count function = .ok h ∧
        ∀ time, now ≤ time → h.freeOperations time = g.freeOperations time

/-- An empty batch keeps a milli-operation, and a batch of one starts the clock of a throttle whose
level was restored without a decision time. -/
theorem batches_given_back_can_leave_a_trace :
    ¬ Gate.ReversesBatches 0 ∧ ¬ Gate.ReversesBatches 1 := by
  let rebuilt : Call := .rebuild ⟨[⟨"calls", 1, 0, [⟨10, 0, [.contractCall]⟩]⟩]⟩
  constructor
  · intro reverses
    let g := (Gate.new .consensus).run [rebuilt]
    have reached : g.Reached fun _ => True := ⟨.consensus, _, fun _ _ => trivial, rfl⟩
    obtain ⟨h, given, same⟩ := @reverses g ⟨100, 0⟩ reached (by decide +kernel) (by decide)
      .contractCall (by decide +kernel)
    have free : ((g.decideBatch 0 .contractCall ⟨100, 0⟩).gate.refundBatch 0
        .contractCall).toOption.map (·.freeOperations ⟨100, 0⟩) = some [9999000] := by
      decide +kernel
    rw [given] at free
    have full := (Option.some.inj free).symm.trans (same ⟨100, 0⟩ (by decide))
    exact absurd full (by decide +kernel)
  · intro reverses
    let g := (Gate.new .consensus).run [rebuilt, .restore ⟨[⟨9000000, none⟩], none, none⟩]
    have reached : g.Reached fun _ => True := ⟨.consensus, _, fun _ _ => trivial, rfl⟩
    obtain ⟨h, given, same⟩ := @reverses g ⟨100, 0⟩ reached (by decide +kernel) (by decide)
      .contractCall (by decide +kernel)
    have free : ((g.decideBatch 1 .contractCall ⟨100, 0⟩).gate.refundBatch 1
        .contractCall).toOption.map (·.freeOperations ⟨101, 0⟩) = some [10000000] := by
      decide +kernel
    rw [given] at free
    have kept := (Option.some.inj free).symm.trans (same ⟨101, 0⟩ (by decide))
    exact absurd kept (by decide +kernel)

end Throttling
