import Throttling.Proofs.Gate.Exemption

/-!
# Batches on disjoint throttles commute

Every decision commits all throttles of operations, gas and bytes, and every denial rolls all of
them back, whatever throttles the decision is about. Right after the commit there is nothing to roll
back on a throttle that was not drawn from. So a batch leaves alone what its functionality does not
name (`decideBatch_frame`), and what it answers and does depends on nothing else
(`decideBatch_congr`). Two batches that name no throttle in common can be made in either order
(`disjoint_batches_commute`).
-/

set_option autoImplicit false

namespace Throttling

/-! ## What a draw reads and writes -/

namespace Portion

variable {now : Timestamp} {p : Portion} {ps : List Portion} {ts us drawn : List Throttle}

theorem draw?_eq_bind (p : Portion) (ts : List Throttle) (now : Timestamp) :
    p.draw? ts now =
      ts[p.throttle]?.bind fun t => (t.draw? now p.amount).map fun t' => ts.set p.throttle t' := by
  unfold draw?
  cases ts[p.throttle]? with
  | none => rfl
  | some t => cases h : t.draw? now p.amount <;> simp [h]

/-- A portion that is drawn replaces the throttle at its position. -/
theorem exists_set_of_draw? (first : p.draw? ts now = some drawn) :
    ∃ t t', ts[p.throttle]? = some t ∧ t.draw? now p.amount = some t' ∧
      drawn = ts.set p.throttle t' := by
  rw [draw?_eq_bind, Option.bind_eq_some_iff] at first
  obtain ⟨t, found, first⟩ := first
  obtain ⟨t', granted, rfl⟩ := Option.map_eq_some_iff.mp first
  exact ⟨t, t', found, granted, rfl⟩

/-- Portions leave alone the throttles that they do not name. -/
theorem getElem?_drawAll_of_unnamed {position : Nat} (unnamed : ∀ p ∈ ps, p.throttle ≠ position) :
    (drawAll now ps ts).2[position]? = ts[position]? := by
  induction ps generalizing ts with
  | nil => rfl
  | cons p ps ih =>
    obtain ⟨other, others⟩ := List.forall_mem_cons.mp unnamed
    cases first : p.draw? ts now with
    | none => rw [drawAll_cons_of_none first]
    | some drawn =>
      obtain ⟨t, t', -, -, rfl⟩ := exists_set_of_draw? first
      have rest : (drawAll now ps (ts.set p.throttle t')).2[position]? = ts[position]? := by
        rw [ih others, List.getElem?_set_ne other]
      rw [drawAll_cons first]
      dsimp only
      split
      · exact rest
      · rw [revoke, List.getElem?_modify_ne _ _ other]
        exact rest

/-- Where two lists of throttles agree on some positions, portions that name only these are answered
alike and leave the lists in agreement there. -/
theorem drawAll_congr {positions : List Nat} (named : ∀ p ∈ ps, p.throttle ∈ positions)
    (agree : ∀ position ∈ positions, ts[position]? = us[position]?) :
    (drawAll now ps ts).1 = (drawAll now ps us).1 ∧
      ∀ position ∈ positions,
        (drawAll now ps ts).2[position]? = (drawAll now ps us).2[position]? := by
  induction ps generalizing ts us with
  | nil => exact ⟨rfl, agree⟩
  | cons p ps ih =>
    obtain ⟨own, others⟩ := List.forall_mem_cons.mp named
    have here := agree p.throttle own
    cases first : p.draw? ts now with
    | none =>
      have first' : p.draw? us now = none := by
        rw [draw?_eq_bind, here] at first
        rw [draw?_eq_bind]
        simpa using first
      rw [drawAll_cons_of_none first, drawAll_cons_of_none first']
      exact ⟨rfl, agree⟩
    | some drawn =>
      obtain ⟨t, t', found, granted, rfl⟩ := exists_set_of_draw? first
      -- both lists have the same throttle there, so it is replaced by the same one
      have found' : us[p.throttle]? = some t := here.symm.trans found
      have first' : p.draw? us now = some (us.set p.throttle t') := by
        rw [draw?_eq_bind, found', Option.bind_some, granted, Option.map_some]
      have agree' : ∀ position ∈ positions,
          (ts.set p.throttle t')[position]? = (us.set p.throttle t')[position]? := by
        intro position member
        rw [List.getElem?_set', List.getElem?_set', agree position member]
      obtain ⟨verdict, after⟩ := ih others agree'
      rw [drawAll_cons first, drawAll_cons first', verdict]
      refine ⟨rfl, fun position member => ?_⟩
      dsimp only
      split
      · exact after position member
      · rw [revoke, revoke, List.getElem?_modify, List.getElem?_modify, after position member]

end Portion

namespace ThrottleSet

variable {s r : ThrottleSet} {function : Functionality} {draw : Draw} {now : Timestamp}
  {quantity : Nat} {scale : ScaleFactor}

def positions (s : ThrottleSet) (function : Functionality) : List Nat :=
  (s.requirements function).map (·.throttle)

theorem positions_congr (costs : s.costs = r.costs) :
    s.positions function = r.positions function := by
  rw [positions, requirements, costs, positions, requirements]

/-- The portions of a tariff of the set name the positions of the functionality. -/
theorem throttle_mem_positions {tariff : Tariff} (found : s.tariff? function = some tariff) :
    ∀ p ∈ tariff.portions quantity scale, p.throttle ∈ s.positions function := by
  intro p member
  obtain ⟨requirement, own, rfl⟩ := List.mem_map.mp member
  rw [requirements_of_tariff? found] at own
  exact List.mem_map_of_mem own

/-- A draw on a set leaves alone the throttles that the functionality does not name. -/
theorem getElem?_draw?_of_unnamed (drawn : s.draw? function now quantity scale = some draw)
    {position : Nat} (unnamed : position ∉ s.positions function) :
    draw.set.throttles[position]? = s.throttles[position]? := by
  obtain ⟨tariff, found, rfl⟩ := Option.map_eq_some_iff.mp drawn
  rw [Tariff.draw_eq]
  refine Portion.getElem?_drawAll_of_unnamed fun p member same => unnamed ?_
  rw [← same]
  exact throttle_mem_positions found p member

def AgreeOn (positions : List Nat) (s r : ThrottleSet) : Prop :=
  ∀ position ∈ positions, s.throttles[position]? = r.throttles[position]?

theorem AgreeOn.mapThrottles {positions : List Nat} (agree : AgreeOn positions s r)
    (f : Throttle → Throttle) : AgreeOn positions (s.mapThrottles f) (r.mapThrottles f) := by
  intro position member
  simp only [ThrottleSet.mapThrottles, List.getElem?_map, agree position member]

/-- Draws on sets that agree on the requirements, and on the throttles named, have the same verdict,
and the sets after them agree on these throttles. -/
theorem draw?_congr (costs : s.costs = r.costs) (agree : AgreeOn (s.positions function) s r)
    (now : Timestamp) (quantity : Nat) (scale : ScaleFactor) :
    Option.Rel
      (fun d e : Draw => d.granted = e.granted ∧ AgreeOn (s.positions function) d.set e.set)
      (s.draw? function now quantity scale) (r.draw? function now quantity scale) := by
  have same : s.requirements function = r.requirements function := by
    rw [requirements, costs, requirements]
  unfold draw?
  cases listed : s.requirements function with
  | nil =>
    simp only [tariff?, ← same, listed]
    exact .none
  | cons first rest =>
    have found : s.tariff? function = some ⟨function, first :: rest, s.generation⟩ := by
      rw [tariff?, listed]
    have found' : r.tariff? function = some ⟨function, first :: rest, r.generation⟩ := by
      rw [tariff?, ← same, listed]
    rw [found, found']
    refine .some ?_
    simp only [Tariff.draw_eq]
    exact Portion.drawAll_congr (throttle_mem_positions found) agree

end ThrottleSet

/-! ## What a batch reads and writes -/

variable {g h : Gate} {function : Functionality} {now : Timestamp} {quantity : Nat}

/-- The throttle that a usage names, if the gate has it, with nothing provisional. -/
def Gate.committed? (g : Gate) (ref : ThrottleRef) : Option Throttle :=
  (g.throttle? ref).map Throttle.commit

theorem throttle?_rollback (g : Gate) (ref : ThrottleRef) :
    g.rollback.throttle? ref =
      (g.throttle? ref).map (if ref = .opsDuration then id else Throttle.rollback) := by
  cases ref with
  | operations index => exact List.getElem?_map
  | gas | bytes => rfl
  | opsDuration => exact Option.map_id'.symm

theorem committed?_commit (g : Gate) (ref : ThrottleRef) :
    g.commit.committed? ref = g.committed? ref := by
  unfold Gate.committed?
  rw [throttle?_commit, Option.map_map]
  split <;> rfl

/-- Right after a commit there is nothing to roll back on a throttle. -/
theorem committed?_rollback (w : g.WellFormed) {ref : ThrottleRef}
    (same : h.throttle? ref = g.commit.throttle? ref) :
    h.rollback.committed? ref = g.committed? ref := by
  unfold Gate.committed?
  rw [throttle?_rollback, same, throttle?_commit]
  cases found : g.throttle? ref with
  | none => rfl
  | some t =>
    by_cases apart : ref = .opsDuration
    · rw [if_pos apart, if_pos apart]
      rfl
    · rw [if_neg apart, if_neg apart]
      have kept : t.commit.rollback = t.commit := Throttle.rollback_commit (w.throttle? found)
      exact congrArg (fun t => some t.commit) kept

/-- A batch leaves alone what its functionality does not name, whether it is granted or denied. -/
theorem decideBatch_frame (w : g.WellFormed) {ref : ThrottleRef}
    (unnamed : ∀ position ∈ g.operations.positions function, ref ≠ .operations position) :
    (g.decideBatch quantity function now).gate.committed? ref = g.committed? ref := by
  unfold Gate.decideBatch Gate.decideOperations
  dsimp only
  split
  · rfl
  · split
    · exact committed?_commit g ref
    · rename_i draw drawn
      have same : Gate.throttle? { g.commit with operations := draw.set } ref =
          g.commit.throttle? ref := by
        cases ref with
        | operations index =>
          exact ThrottleSet.getElem?_draw?_of_unnamed drawn fun named => unnamed index named rfl
        | gas | bytes | opsDuration => rfl
      split
      · exact (congrArg (Option.map Throttle.commit) same).trans (committed?_commit g ref)
      · exact committed?_rollback w same

theorem committed?_eq_iff_agreeOn (positions : List Nat) :
    (∀ position ∈ positions, g.committed? (.operations position) =
      h.committed? (.operations position)) ↔
      g.operations.commit.AgreeOn positions h.operations.commit := by
  simp only [ThrottleSet.AgreeOn, ThrottleSet.commit, ThrottleSet.mapThrottles, List.getElem?_map]
  rfl

/-- A batch on gates that agree on the throttles that the functionality names is answered alike, and
leaves the gates in agreement on these throttles. -/
theorem decideBatch_congr (stage : g.stage = h.stage)
    (costs : g.operations.costs = h.operations.costs)
    (agree : ∀ position ∈ g.operations.positions function,
      g.committed? (.operations position) = h.committed? (.operations position)) :
    (g.decideBatch quantity function now).result = (h.decideBatch quantity function now).result ∧
      ∀ position ∈ g.operations.positions function,
        (g.decideBatch quantity function now).gate.committed? (.operations position) =
          (h.decideBatch quantity function now).gate.committed? (.operations position) := by
  rw [committed?_eq_iff_agreeOn] at agree ⊢
  unfold Gate.decideBatch Gate.decideOperations
  rw [← stage]
  split
  · exact ⟨rfl, agree⟩
  · have costs : g.operations.commit.costs = h.operations.commit.costs := costs
    have draws := ThrottleSet.draw?_congr costs agree now quantity .one
    dsimp only [Gate.commit]
    generalize g.operations.commit.draw? function now quantity .one = x,
      h.operations.commit.draw? function now quantity .one = y at draws
    cases draws with
    | none => exact ⟨rfl, agree.mapThrottles Throttle.commit⟩
    | @some d e same =>
      obtain ⟨verdict, after⟩ := same
      dsimp only
      rw [verdict]
      split
      · exact ⟨rfl, after.mapThrottles Throttle.commit⟩
      · exact ⟨rfl, (after.mapThrottles Throttle.rollback).mapThrottles Throttle.commit⟩

/-! ## Two batches -/

theorem decideBatch_stage : (g.decideBatch quantity function now).gate.stage = g.stage := by
  unfold Gate.decideBatch Gate.decideOperations
  dsimp only
  split
  · rfl
  · split
    · rfl
    · split <;> rfl

theorem decideBatch_positions (w : g.WellFormed) (other : Functionality) :
    (g.decideBatch quantity function now).gate.operations.positions other =
      g.operations.positions other :=
  ThrottleSet.positions_congr (decideBatch_costs w quantity function now)

theorem decideBatch_wellFormed (sound : g.Each Throttle.Sound) :
    (g.decideBatch quantity function now).gate.WellFormed := by
  have after : (g.call (.batch quantity function now)).gate.Each Throttle.Sound :=
    call_each (I := .sound) ⟨fun _ _ => trivial, fun _ _ => trivial⟩ sound
  exact after.wellFormed

variable {first second : Functionality}

/-- After a batch, another one that names none of its throttles is answered as it would have been
without the first, and makes of the throttles it names what it would have made. -/
theorem decideBatch_after (w : g.WellFormed)
    (apart : (g.operations.positions first).Disjoint (g.operations.positions second)) (n m : Nat)
    (t u : Timestamp) :
    ((g.decideBatch n first t).gate.decideBatch m second u).result =
        (g.decideBatch m second u).result ∧
      ∀ position ∈ g.operations.positions second,
        ((g.decideBatch n first t).gate.decideBatch m second u).gate.committed?
            (.operations position) =
          (g.decideBatch m second u).gate.committed? (.operations position) := by
  have untouched : ∀ position ∈ g.operations.positions second,
      (g.decideBatch n first t).gate.committed? (.operations position) =
        g.committed? (.operations position) := by
    intro position own
    refine decideBatch_frame w fun other named same => ?_
    cases same
    exact apart named own
  rw [← decideBatch_positions w second] at untouched ⊢
  exact decideBatch_congr decideBatch_stage (decideBatch_costs w n first t) untouched

/-- The throttles that the first of two batches names are left alike if it comes second. -/
theorem committed?_of_named (sound : g.Each Throttle.Sound)
    (apart : (g.operations.positions first).Disjoint (g.operations.positions second)) (n m : Nat)
    (t u : Timestamp) {position : Nat} (own : position ∈ g.operations.positions first) :
    ((g.decideBatch n first t).gate.decideBatch m second u).gate.committed?
        (.operations position) =
      ((g.decideBatch m second u).gate.decideBatch n first t).gate.committed?
        (.operations position) := by
  have w : g.WellFormed := sound.wellFormed
  obtain ⟨-, alone⟩ := decideBatch_after w (List.disjoint_symm apart) m n u t
  rw [alone position own]
  refine decideBatch_frame (decideBatch_wellFormed sound) fun other named same => ?_
  cases same
  rw [decideBatch_positions w] at named
  exact apart own named

/-- The throttles that neither of two batches names are left as they were. -/
theorem committed?_of_unnamed (sound : g.Each Throttle.Sound) (n m : Nat) (t u : Timestamp)
    {ref : ThrottleRef}
    (unnamed₁ : ∀ position ∈ g.operations.positions first, ref ≠ .operations position)
    (unnamed₂ : ∀ position ∈ g.operations.positions second, ref ≠ .operations position) :
    ((g.decideBatch n first t).gate.decideBatch m second u).gate.committed? ref =
      g.committed? ref := by
  have w : g.WellFormed := sound.wellFormed
  rw [← decideBatch_positions w second] at unnamed₂
  exact (decideBatch_frame (decideBatch_wellFormed sound) unnamed₂).trans
    (decideBatch_frame w unnamed₁)

theorem level_eq_of_committed? {ref : ThrottleRef} (same : g.committed? ref = h.committed? ref) :
    (g.throttle? ref).map Throttle.level = (h.throttle? ref).map Throttle.level := by
  have levels := congrArg (Option.map Throttle.level) same
  simp only [Gate.committed?, Option.map_map] at levels
  exact levels

/-- On a gate that any calls lead to, two batches whose functionalities name no throttle in common
can be made in either order: each is granted or denied alike, and every throttle ends with the same
in use. What is provisional when they come, and the times they are made at, do not matter. -/
theorem disjoint_batches_commute {allowed : Call → Prop} (reached : g.Reached allowed)
    (apart : (g.operations.positions first).Disjoint (g.operations.positions second)) (n m : Nat)
    (t u : Timestamp) :
    (g.decideBatch n first t).result =
        ((g.decideBatch m second u).gate.decideBatch n first t).result ∧
      ((g.decideBatch n first t).gate.decideBatch m second u).result =
        (g.decideBatch m second u).result ∧
      ∀ ref,
        (((g.decideBatch n first t).gate.decideBatch m second u).gate.throttle? ref).map
            Throttle.level =
          (((g.decideBatch m second u).gate.decideBatch n first t).gate.throttle? ref).map
            Throttle.level := by
  have sound := reached.sound
  obtain ⟨verdict₁, -⟩ := decideBatch_after reached.wellFormed (List.disjoint_symm apart) m n u t
  obtain ⟨verdict₂, -⟩ := decideBatch_after reached.wellFormed apart n m t u
  refine ⟨verdict₁.symm, verdict₂, fun ref => level_eq_of_committed? ?_⟩
  -- no throttle is named by both, so at most one of the batches has touched this one
  by_cases inFirst : ∃ position ∈ g.operations.positions first, ref = .operations position
  · obtain ⟨position, own, rfl⟩ := inFirst
    exact committed?_of_named sound apart n m t u own
  by_cases inSecond : ∃ position ∈ g.operations.positions second, ref = .operations position
  · obtain ⟨position, own, rfl⟩ := inSecond
    exact (committed?_of_named sound (List.disjoint_symm apart) m n u t own).symm
  have unnamed₁ : ∀ position ∈ g.operations.positions first, ref ≠ .operations position :=
    fun position own same => inFirst ⟨position, own, same⟩
  have unnamed₂ : ∀ position ∈ g.operations.positions second, ref ≠ .operations position :=
    fun position own same => inSecond ⟨position, own, same⟩
  rw [committed?_of_unnamed sound n m t u unnamed₁ unnamed₂,
    committed?_of_unnamed sound m n u t unnamed₂ unnamed₁]

/-- What the transfers drew before is still provisional when the two batches come. The calls are
granted. The transfers, at an earlier instant, are denied and rolled back. -/
theorem disjoint_batches_commute_granted_and_denied :
    let definitions : Definitions :=
      ⟨[⟨"calls", 1, 0, [⟨10, 0, [.contractCall]⟩]⟩,
        ⟨"transfers", 1, 0, [⟨2, 0, [.cryptoTransfer]⟩]⟩]⟩
    let g := (Gate.new .consensus).run
      [.rebuild definitions, .batch 2 .cryptoTransfer ⟨100, 0⟩]
    let callsFirst :=
      (g.decideBatch 3 .contractCall ⟨101, 0⟩).gate.decideBatch 1 .cryptoTransfer ⟨99, 0⟩
    let transfersFirst :=
      (g.decideBatch 1 .cryptoTransfer ⟨99, 0⟩).gate.decideBatch 3 .contractCall ⟨101, 0⟩
    g.operations.positions .contractCall = [0] ∧ g.operations.positions .cryptoTransfer = [1] ∧
      g.operations.throttles.map (·.bucket.provisional) = [0, 2000000] ∧
      (g.decideBatch 3 .contractCall ⟨101, 0⟩).result = false ∧ transfersFirst.result = false ∧
      (g.decideBatch 1 .cryptoTransfer ⟨99, 0⟩).result = true ∧ callsFirst.result = true ∧
      callsFirst.gate.operations.throttles.map Throttle.level =
        [(3000000, 0, some ⟨101, 0⟩), (2000000, 0, some ⟨100, 0⟩)] ∧
      ∀ ref, (callsFirst.gate.throttle? ref).map Throttle.level =
        (transfersFirst.gate.throttle? ref).map Throttle.level := by
  intro definitions g callsFirst transfersFirst
  have reached : g.Reached fun _ => True := ⟨.consensus, _, fun _ _ => trivial, rfl⟩
  have named₁ : g.operations.positions .contractCall = [0] := by decide +kernel
  have named₂ : g.operations.positions .cryptoTransfer = [1] := by decide +kernel
  have apart : (g.operations.positions .contractCall).Disjoint
      (g.operations.positions .cryptoTransfer) := by
    rw [named₁, named₂]
    exact List.disjoint_singleton.mpr (by decide)
  obtain ⟨calls, transfers, levels⟩ :=
    disjoint_batches_commute reached apart 3 1 ⟨101, 0⟩ ⟨99, 0⟩
  have granted : (g.decideBatch 3 .contractCall ⟨101, 0⟩).result = false := by decide +kernel
  have denied : (g.decideBatch 1 .cryptoTransfer ⟨99, 0⟩).result = true := by decide +kernel
  exact ⟨named₁, named₂, by decide +kernel, granted, calls.symm.trans granted, denied,
    transfers.trans denied, by decide +kernel, levels⟩

end Throttling
