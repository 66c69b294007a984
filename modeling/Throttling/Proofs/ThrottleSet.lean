import Throttling.ThrottleSet
import Throttling.Proofs.Definitions
import Throttling.Proofs.Draws

/-!
# Draws on compiled sets

In a compiled set no tariff names a throttle twice: each bucket lists a functionality at most once,
and the requirements stand in bucket order (`compile_ordered`). So the parts of a draw do not
compete with each other, and a draw is granted exactly if each throttle of the tariff has room for
its own part (`draw?_granted_iff`).
-/

set_option autoImplicit false

namespace Throttling

/-- Where no two elements share a key, each is the only one with its key. -/
theorem filter_key_of_nodup {α β : Type} [DecidableEq β] {key : α → β} {xs : List α}
    (distinct : (xs.map key).Nodup) {x : α} (member : x ∈ xs) :
    (xs.filter fun y => key y = key x) = [x] := by
  induction xs with
  | nil => cases member
  | cons y ys ih =>
    obtain ⟨apart, rest⟩ := List.nodup_cons.mp distinct
    rcases List.mem_cons.mp member with rfl | later
    · have others : (ys.filter fun z => key z = key x) = [] :=
        List.filter_eq_nil_iff.mpr fun z there same =>
          apart (List.mem_map.mpr ⟨z, there, of_decide_eq_true same⟩)
      rw [List.filter_cons, if_pos (decide_eq_true rfl), others]
    · have other : ¬ decide (key y = key x) = true := fun same =>
        apart (List.mem_map.mpr ⟨x, later, (of_decide_eq_true same).symm⟩)
      rw [List.filter_cons, if_neg other, ih rest later]

/-- The throttle has capacity, and an amount fits what is free at `now`. -/
def Throttle.HasRoom (t : Throttle) (now : Timestamp) (amount : Nat) : Prop :=
  t.capacity ≠ 0 ∧ t.units amount ≤ t.free now

namespace ThrottleSet

/-- The requirements of each functionality stand in the order of their throttles. -/
def Ordered (s : ThrottleSet) : Prop :=
  s.costs.Pairwise fun a b => a.1 = b.1 → a.2.throttle < b.2.throttle

theorem empty_ordered (generation : Nat) : (empty generation).Ordered := List.Pairwise.nil

/-- The buckets of a compiled set are those of the document that compile. -/
theorem mem_accepted_iff {definitions : Definitions} {split : Nat} {bucket : CompiledBucket} :
    bucket ∈ accepted definitions split ↔
      ∃ b ∈ definitions.buckets, b.compile split = .ok bucket := by
  unfold accepted
  rw [List.mem_filterMap]
  refine exists_congr fun b => and_congr_right fun _ => ?_
  cases b.compile split with
  | error e => simp [Except.toOption]
  | ok compiled => simp [Except.toOption]

/-- A requirement of a compiled set is a cost of the bucket at its position. -/
theorem exists_of_mem_requirements {definitions : Definitions} {split generation : Nat}
    {function : Functionality} {r : Requirement}
    (member : r ∈ (compile definitions split generation).requirements function) :
    ∃ c, (accepted definitions split)[r.throttle]? = some c ∧ (function, r.milliOps) ∈ c.costs := by
  obtain ⟨⟨f, r'⟩, entry, own⟩ := List.mem_filterMap.mp member
  obtain ⟨⟨c, position⟩, listed, here⟩ := List.mem_flatMap.mp entry
  obtain ⟨⟨f', milliOps⟩, cost, same⟩ := List.mem_map.mp here
  cases same
  split at own
  · rename_i this
    cases own
    cases this
    exact ⟨c, List.mk_mem_zipIdx_iff_getElem?.mp listed, cost⟩
  · cases own

theorem compile_wellFormed (definitions : Definitions) (split generation : Nat) :
    Portion.AllWellFormed (compile definitions split generation).throttles := by
  intro t member
  obtain ⟨bucket, accepted, rfl⟩ := List.mem_map.mp member
  obtain ⟨b, -, compiled⟩ := mem_accepted_iff.mp accepted
  exact BucketDefinition.wellFormed_of_compile compiled

theorem compile_ordered (definitions : Definitions) (split generation : Nat) :
    (compile definitions split generation).Ordered := by
  refine List.pairwise_flatMap.mpr ⟨fun entry member => ?_, ?_⟩
  · -- within a bucket no functionality is listed twice
    obtain ⟨b, -, compiled⟩ := mem_accepted_iff.mp (List.fst_mem_of_mem_zipIdx member)
    have distinct := List.pairwise_map.mp (BucketDefinition.nodup_of_compile compiled)
    exact List.pairwise_map.mpr (distinct.imp fun differ same => absurd same differ)
  · -- across buckets the position grows
    have positions : (accepted definitions split).zipIdx.Pairwise fun a b => a.2 < b.2 := by
      rw [← List.pairwise_map, List.zipIdx_map_snd]
      exact List.pairwise_lt_range'
    refine positions.imp fun {a b} before x here y there _ => ?_
    obtain ⟨_, _, rfl⟩ := List.mem_map.mp here
    obtain ⟨_, _, rfl⟩ := List.mem_map.mp there
    exact before

variable {s : ThrottleSet} {function : Functionality} {now : Timestamp} {quantity : Nat}
  {scale : ScaleFactor}

theorem requirements_of_tariff? {tariff : Tariff} (found : s.tariff? function = some tariff) :
    tariff.requirements = s.requirements function := by
  unfold tariff? at found
  split at found
  · cases found
  · cases found
    rfl

theorem generation_of_tariff? {tariff : Tariff} (found : s.tariff? function = some tariff) :
    tariff.generation = s.generation := by
  unfold tariff? at found
  split at found
  · cases found
  · cases found
    rfl

/-- The requirements of a tariff stand in the order of their throttles. -/
theorem tariff?_increasing (ordered : s.Ordered) {tariff : Tariff}
    (found : s.tariff? function = some tariff) :
    tariff.requirements.Pairwise fun a b => a.throttle < b.throttle := by
  rw [requirements_of_tariff? found, requirements, List.pairwise_filterMap]
  refine ordered.imp fun {a b} before r here r' there => ?_
  split at here
  · split at there
    · rename_i first second
      cases here
      cases there
      exact before (first.trans second.symm)
    · cases there
  · cases here

/-- The throttles of a tariff are distinct. -/
theorem tariff?_distinct (ordered : s.Ordered) {tariff : Tariff}
    (found : s.tariff? function = some tariff) :
    tariff.requirements.Pairwise fun a b => a.throttle ≠ b.throttle :=
  (tariff?_increasing ordered found).imp Nat.ne_of_lt

/-- Portions that name distinct throttles do not add up. -/
theorem unitsOn_of_distinct {ps : List Portion}
    (distinct : ps.Pairwise fun a b => a.throttle ≠ b.throttle) {p : Portion} (member : p ∈ ps)
    (t : Throttle) : Portion.unitsOn ps p.throttle t = t.units p.amount := by
  rw [Portion.unitsOn, filter_key_of_nodup (List.pairwise_map.mpr distinct) member]
  exact List.sum_singleton

def HasRoom (s : ThrottleSet) (function : Functionality) (now : Timestamp) (quantity : Nat)
    (scale : ScaleFactor) : Prop :=
  ∃ tariff, s.tariff? function = some tariff ∧ ∀ r ∈ tariff.requirements,
    ∃ t, s.throttles[r.throttle]? = some t ∧
      t.HasRoom now (Tariff.amount r.milliOps quantity scale)

/-- A draw is granted exactly if each throttle of the tariff has room for its part. -/
theorem draw?_granted_iff (ordered : s.Ordered) (w : Portion.AllWellFormed s.throttles) :
    (∃ draw, s.draw? function now quantity scale = some draw ∧ draw.granted = true) ↔
      s.HasRoom function now quantity scale := by
  unfold draw? HasRoom
  cases found : s.tariff? function with
  | none => simp
  | some tariff =>
    have distinct : (tariff.portions quantity scale).Pairwise fun a b => a.throttle ≠ b.throttle :=
      List.pairwise_map.mpr (tariff?_distinct ordered found)
    have fit : Portion.Fit (tariff.portions quantity scale) s.throttles now ↔
        ∀ r ∈ tariff.requirements, ∃ t, s.throttles[r.throttle]? = some t ∧
          t.HasRoom now (Tariff.amount r.milliOps quantity scale) := by
      unfold Portion.Fit
      rw [Tariff.portions, List.forall_mem_map, ← Tariff.portions]
      refine forall₂_congr fun r member => exists_congr fun t => ?_
      have own : (⟨r.throttle, Tariff.amount r.milliOps quantity scale⟩ : Portion) ∈
          tariff.portions quantity scale := List.mem_map_of_mem member
      rw [unitsOn_of_distinct distinct own]
      rfl
    simp only [Option.map_some, Option.some.injEq, exists_eq_left', Tariff.draw_eq,
      Portion.drawAll_granted_iff w, fit]

end ThrottleSet

end Throttling
