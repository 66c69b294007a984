import Throttling.Proofs.Gate.Tariffs
import Mathlib.Data.List.Nodup

/-!
# Usages account for what is drawn

An admitted transaction draws from up to three places: gas, payload bytes, and the throttles of the
tariff it is charged by. Each draw is recorded as a usage. `Gate.Drew` says that the records are
complete and exact: what usages name a throttle for is claimed from it and nothing else is, so every
throttle is known from the usages and the gate before. Charges made in turn draw as one as long as
they name different resources (`Drew.trans`), hence so does a whole decision
(`decideTransaction_accounts`).
-/

set_option autoImplicit false

namespace Throttling

/-! ## Throttles by name -/

def ThrottleRef.kind : ThrottleRef → ResourceKind
  | operations _ => .operations
  | gas => .gas
  | bytes => .bytes
  | opsDuration => .opsDuration

def Gate.throttle? (g : Gate) : ThrottleRef → Option Throttle
  | .operations index => g.operations.throttles[index]?
  | .gas => g.gas
  | .bytes => g.bytes
  | .opsDuration => g.opsDuration

/-- Throttles of the same name are related where the gates are. -/
theorem Gate.Related.throttle? {R : ResourceKind → Throttle → Throttle → Prop} {g h : Gate}
    (related : g.Related R h) (ref : ThrottleRef) :
    Option.Rel (R ref.kind) (g.throttle? ref) (h.throttle? ref) := by
  cases ref with
  | operations index => exact forall₂_getElem? related.operations.throttles index
  | gas => exact related.gas
  | bytes => exact related.bytes
  | opsDuration => exact related.opsDuration

/-- A property of every throttle holds of the one that a usage names. -/
theorem Gate.Each.throttle? {P : ResourceKind → Throttle → Prop} {g : Gate} (each : g.Each P)
    {ref : ThrottleRef} {t : Throttle} (here : g.throttle? ref = some t) : P ref.kind t := by
  cases ref with
  | operations index => exact each.operations t (List.mem_of_getElem? here)
  | gas => exact each.gas t here
  | bytes => exact each.bytes t here
  | opsDuration => exact each.opsDuration t here

namespace Usage

def names (usages : List Usage) (ref : ThrottleRef) : Bool := usages.any fun u => u.throttle = ref

/-- The bucket units of the throttle `t` that the usages naming it amount to. -/
def unitsOn (usages : List Usage) (ref : ThrottleRef) (t : Throttle) : Nat :=
  ((usages.filter fun u => u.throttle = ref).map fun u => t.units u.amount).sum

/-- The throttle with all that usages name it for claimed at `now`. -/
def claimOn (usages : List Usage) (ref : ThrottleRef) (now : Timestamp) (t : Throttle) : Throttle :=
  if names usages ref then t.claim now (unitsOn usages ref t) else t

variable {usages more : List Usage} {ref : ThrottleRef} {now : Timestamp} {t : Throttle}

theorem names_append : names (usages ++ more) ref = (names usages ref || names more ref) :=
  List.any_append

theorem unitsOn_append :
    unitsOn (usages ++ more) ref t = unitsOn usages ref t + unitsOn more ref t := by
  simp [unitsOn]

theorem filter_of_unnamed (unnamed : names usages ref = false) :
    (usages.filter fun u => u.throttle = ref) = [] := by
  simpa [names, List.filter_eq_nil_iff] using unnamed

theorem unitsOn_of_unnamed (unnamed : names usages ref = false) : unitsOn usages ref t = 0 := by
  rw [unitsOn, filter_of_unnamed unnamed]
  rfl

theorem names_eq_true_iff : names usages ref = true ↔ ∃ u ∈ usages, u.throttle = ref := by
  simp only [names, List.any_eq_true, decide_eq_true_eq]

theorem names_eq_false_iff : names usages ref = false ↔ ref ∉ usages.map (·.throttle) := by
  simp only [names, List.any_eq_false, decide_eq_true_eq, List.mem_map, not_exists, not_and]

/-- A usage alone names its throttle if no two usages name one throttle. -/
theorem unitsOn_of_distinct (distinct : (usages.map (·.throttle)).Nodup) {u : Usage}
    (member : u ∈ usages) (t : Throttle) : unitsOn usages u.throttle t = t.units u.amount := by
  rw [unitsOn, filter_key_of_nodup distinct member]
  exact List.sum_singleton

theorem claimOn_of_unnamed (unnamed : names usages ref = false) : claimOn usages ref now = id := by
  funext t
  rw [claimOn, unnamed]
  rfl

@[simp] theorem unitsOn_claimOn :
    unitsOn more ref (claimOn usages ref now t) = unitsOn more ref t := by
  unfold claimOn
  split <;> rfl

/-- Claiming for some usages and then for others is claiming for all of them. -/
theorem claimOn_append :
    claimOn (usages ++ more) ref now t = claimOn more ref now (claimOn usages ref now t) := by
  cases first : names usages ref with
  | false =>
    rw [claimOn_of_unnamed first, claimOn, claimOn, names_append, unitsOn_append, first,
      unitsOn_of_unnamed first, Nat.zero_add]
    rfl
  | true =>
    cases second : names more ref with
    | false =>
      rw [claimOn_of_unnamed second, claimOn, claimOn, names_append, unitsOn_append, first,
        unitsOn_of_unnamed second]
      rfl
    | true =>
      have both : names (usages ++ more) ref = true := by rw [names_append, first, second]; rfl
      simp only [claimOn, both, first, second, if_true, unitsOn_append, Throttle.claim_claim]
      rfl

/-- What is free drops by what the usages amount to, as long as that is free. -/
theorem free_claimOn (fits : unitsOn usages ref t ≤ t.free now) :
    (claimOn usages ref now t).free now + unitsOn usages ref t = t.free now := by
  cases named : names usages ref with
  | false => rw [claimOn_of_unnamed named, unitsOn_of_unnamed named, id, Nat.add_zero]
  | true =>
    rw [claimOn, named, if_pos rfl, Throttle.free_claim]
    exact Nat.sub_add_cancel fits

end Usage

/-! ## Exact records -/

/-- The gate `h` is `g` after the draws that `usages` record, each from a different throttle of the
resources `kinds`. -/
structure Gate.Drew (kinds : List ResourceKind) (now : Timestamp) (g : Gate) (usages : List Usage)
    (h : Gate) : Prop where
  kind : ∀ u ∈ usages, u.throttle.kind ∈ kinds
  distinct : (usages.map (·.throttle)).Nodup
  stamped : ∀ u ∈ usages, u.generation = g.operations.generation
  generation : h.operations.generation = g.operations.generation
  there : ∀ u ∈ usages, (g.throttle? u.throttle).isSome = true
  fits : ∀ ref, ∀ t ∈ g.throttle? ref, Usage.unitsOn usages ref t ≤ t.free now
  state : ∀ ref, h.throttle? ref = (g.throttle? ref).map (Usage.claimOn usages ref now)

namespace Gate.Drew

variable {kinds others : List ResourceKind} {now : Timestamp} {g h k : Gate}
  {usages more : List Usage}

/-- Without a draw there is no usage. -/
theorem nothing (kinds : List ResourceKind) (now : Timestamp) (g : Gate) :
    g.Drew kinds now [] g where
  kind := List.forall_mem_nil _
  distinct := List.nodup_nil
  stamped := List.forall_mem_nil _
  generation := rfl
  there := List.forall_mem_nil _
  fits := fun _ _ _ => Nat.zero_le _
  state := fun _ => Option.map_id'.symm

/-- Draws from different resources, one after the other, are recorded by their usages together. -/
theorem trans (first : g.Drew kinds now usages h) (second : h.Drew others now more k)
    (apart : ∀ kind ∈ kinds, kind ∉ others) : g.Drew (kinds ++ others) now (usages ++ more) k where
  kind := by
    intro u member
    rcases List.mem_append.mp member with here | there
    · exact List.mem_append_left _ (first.kind u here)
    · exact List.mem_append_right _ (second.kind u there)
  distinct := by
    rw [List.map_append]
    refine first.distinct.append second.distinct ?_
    intro ref here there
    obtain ⟨u, inFirst, rfl⟩ := List.mem_map.mp here
    obtain ⟨v, inSecond, same⟩ := List.mem_map.mp there
    exact apart _ (first.kind u inFirst) (same ▸ second.kind v inSecond)
  stamped := by
    intro u member
    rcases List.mem_append.mp member with here | there
    · exact first.stamped u here
    · exact (second.stamped u there).trans first.generation
  generation := second.generation.trans first.generation
  there := by
    intro u member
    rcases List.mem_append.mp member with here | later
    · exact first.there u here
    · have own := second.there u later
      rw [first.state, Option.isSome_map] at own
      exact own
  fits := by
    intro ref t here
    have own := first.fits ref t here
    have left := Usage.free_claimOn own
    have rest := second.fits ref (Usage.claimOn usages ref now t)
      (by rw [first.state]; exact Option.mem_map_of_mem _ here)
    rw [Usage.unitsOn_claimOn] at rest
    rw [Usage.unitsOn_append]
    omega
  state := by
    intro ref
    rw [second.state, first.state, Option.map_map]
    exact congrArg (fun claims => (g.throttle? ref).map claims)
      (funext fun _ => Usage.claimOn_append.symm)

/-- A draw from one throttle is recorded by one usage. -/
theorem single {ref : ThrottleRef} {t t' : Throttle} {amount : Nat} (w : t.bucket.WellFormed)
    (here : g.throttle? ref = some t) (drawn : t.draw? now amount = some t')
    (own : h.throttle? ref = some t') (frame : ∀ other, other ≠ ref →
      h.throttle? other = g.throttle? other)
    (generation : h.operations.generation = g.operations.generation) :
    g.Drew [ref.kind] now [g.usage ref amount] h := by
  rw [Throttle.draw?_eq w] at drawn
  split at drawn
  · rename_i room
    have units : Usage.unitsOn [g.usage ref amount] ref t = t.units amount := by
      simp [Usage.unitsOn, Gate.usage]
    have unnamed {other : ThrottleRef} (differs : other ≠ ref) :
        Usage.names [g.usage ref amount] other = false := by
      simp [Usage.names, Gate.usage, Ne.symm differs]
    refine ⟨?_, ?_, ?_, generation, ?_, ?_, ?_⟩
    · simp [Gate.usage]
    · simp
    · simp [Gate.usage]
    · simp [Gate.usage, here]
    · intro other s there
      by_cases same : other = ref
      · subst same
        obtain rfl := Option.some.inj (here.symm.trans there)
        rw [units]
        exact room.2
      · rw [Usage.unitsOn_of_unnamed (unnamed same)]
        exact Nat.zero_le _
    · intro other
      by_cases same : other = ref
      · subst same
        have named : Usage.names [g.usage other amount] other = true := by
          simp [Usage.names, Gate.usage]
        rw [own, here, Option.map_some, Usage.claimOn, named, if_pos rfl, units]
        exact drawn.symm
      · rw [frame other same, Usage.claimOn_of_unnamed (unnamed same), Option.map_id_fun, id]
  · cases drawn

end Gate.Drew

/-! ## Charges -/

variable {g : Gate} {now : Timestamp} {config : Config} {ledger : LedgerView} {txn : Transaction}

/-- Charges made in turn, of different resources, are recorded by all of their usages. -/
theorem andThen_drew {kinds others : List ResourceKind} {a : Attempt} {next : Gate → Attempt}
    (first : a.verdict = .allowed → g.Drew kinds now a.usages a.gate)
    (rest : (next a.gate).verdict = .allowed →
      a.gate.Drew others now (next a.gate).usages (next a.gate).gate)
    (apart : ∀ kind ∈ kinds, kind ∉ others)
    (allowed : (a.andThen next).verdict = .allowed) :
    g.Drew (kinds ++ others) now (a.andThen next).usages (a.andThen next).gate := by
  unfold Attempt.andThen at allowed ⊢
  split
  · rename_i granted
    rw [if_pos granted] at allowed
    exact (first granted).trans (rest allowed) apart
  · rename_i refused
    rw [if_neg refused] at allowed
    exact absurd allowed refused

theorem chargeGas_drew (w : g.WellFormed)
    (allowed : (g.chargeGas config txn now).verdict = .allowed) :
    g.Drew [.gas] now (g.chargeGas config txn now).usages (g.chargeGas config txn now).gate := by
  unfold Gate.chargeGas at allowed ⊢
  dsimp only at allowed ⊢
  split
  · rename_i metered
    rw [if_pos metered] at allowed
    cases gas : g.gas with
    | none =>
      rw [gas] at allowed
      cases allowed
    | some t =>
      rw [gas] at allowed
      dsimp only at allowed ⊢
      cases drawn : t.draw? now (txn.body.data.gasLimit txn.function) with
      | none =>
        rw [drawn] at allowed
        cases allowed
      | some t' =>
        have here : g.throttle? .gas = some t := gas
        refine Gate.Drew.single (w.gas t gas) here drawn rfl (fun other differs => ?_) rfl
        cases other with
        | gas => exact absurd rfl differs
        | operations | bytes | opsDuration => rfl
  · exact Gate.Drew.nothing _ now g

theorem chargeBytes_drew (w : g.WellFormed)
    (allowed : (g.chargeBytes config txn now).verdict = .allowed) :
    g.Drew [.bytes] now (g.chargeBytes config txn now).usages
      (g.chargeBytes config txn now).gate := by
  unfold Gate.chargeBytes at allowed ⊢
  dsimp only at allowed ⊢
  split
  · rename_i excessive
    rw [if_pos excessive] at allowed
    cases bytes : g.bytes with
    | none =>
      rw [bytes] at allowed
      cases allowed
    | some t =>
      rw [bytes] at allowed
      dsimp only at allowed ⊢
      cases drawn : t.draw? now (Gate.excessBytes config txn) with
      | none =>
        rw [drawn] at allowed
        cases allowed
      | some t' =>
        have here : g.throttle? .bytes = some t := bytes
        refine Gate.Drew.single (w.bytes t bytes) here drawn rfl (fun other differs => ?_) rfl
        cases other with
        | bytes => exact absurd rfl differs
        | operations | gas | opsDuration => rfl
  · exact Gate.Drew.nothing _ now g

namespace Tariff

variable {tariff : Tariff} {ps : List Portion}

/-- Portions are recorded as usages of the throttles at their positions. -/
theorem names_usages (index : Nat) :
    Usage.names (ps.map tariff.usage) (.operations index) = Portion.names ps index := by
  simp [Usage.names, Portion.names, List.any_map, Function.comp_def, Tariff.usage]

theorem unitsOn_usages (index : Nat) (t : Throttle) :
    Usage.unitsOn (ps.map tariff.usage) (.operations index) t = Portion.unitsOn ps index t := by
  simp [Usage.unitsOn, Portion.unitsOn, List.filter_map, Function.comp_def, Tariff.usage]

theorem not_names_usages {ref : ThrottleRef} (other : ref.kind ≠ .operations) :
    Usage.names (ps.map tariff.usage) ref = false := by
  cases ref with
  | operations => exact absurd rfl other
  | gas | bytes | opsDuration => simp [Usage.names, Tariff.usage]

end Tariff

/-- A granted draw on the set is recorded by its usages. -/
theorem set_draw?_drew (w : g.WellFormed) (ordered : g.operations.Ordered)
    {function : Functionality} {quantity : Nat} {scale : ScaleFactor} {draw : ThrottleSet.Draw}
    (drawn : g.operations.draw? function now quantity scale = some draw)
    (granted : draw.granted = true) :
    g.Drew [.operations] now draw.usages { g with operations := draw.set } := by
  obtain ⟨tariff, found, rfl⟩ := Option.map_eq_some_iff.mp drawn
  rw [Tariff.draw_eq] at granted ⊢
  dsimp only at granted ⊢
  rw [if_pos granted]
  have distinct : (tariff.portions quantity scale).Pairwise fun a b => a.throttle ≠ b.throttle :=
    List.pairwise_map.mpr (ThrottleSet.tariff?_distinct ordered found)
  have fit := (Portion.drawAll_granted_iff w.operations).mp granted
  generalize tariff.portions quantity scale = ps at granted distinct fit ⊢
  refine ⟨?_, ?_, ?_, rfl, ?_, ?_, ?_⟩
  · simp [Tariff.usage, ThrottleRef.kind]
  · rw [List.map_map]
    exact List.pairwise_map.mpr
      (distinct.imp fun differ same => differ (ThrottleRef.operations.inj same))
  · simp [Tariff.usage, ThrottleSet.generation_of_tariff? found]
  · intro u member
    obtain ⟨p, here, rfl⟩ := List.mem_map.mp member
    obtain ⟨t, there, -⟩ := fit p here
    exact Option.isSome_of_mem there
  · intro ref t there
    cases ref with
    | operations index =>
      rw [Tariff.unitsOn_usages]
      exact fit.unitsOn_le there
    | gas | bytes | opsDuration =>
      rw [Usage.unitsOn_of_unnamed (Tariff.not_names_usages (by decide))]
      exact Nat.zero_le _
  · intro ref
    cases ref with
    | operations index =>
      change (Portion.drawAll now ps g.operations.throttles).2[index]? =
        g.operations.throttles[index]?.map _
      cases found : g.operations.throttles[index]? with
      | none =>
        have beyond := List.getElem?_eq_none_iff.mp found
        rw [← Portion.length_drawAll w.operations] at beyond
        exact List.getElem?_eq_none beyond
      | some t =>
        rw [Portion.getElem?_drawAll_granted w.operations granted found, Option.map_some,
          Usage.claimOn, Tariff.names_usages, Tariff.unitsOn_usages]
    | gas | bytes | opsDuration =>
      rw [Usage.claimOn_of_unnamed (Tariff.not_names_usages (by decide)), Option.map_id_fun]
      rfl

theorem chargeDemand_drew (w : g.WellFormed) (ordered : g.operations.Ordered) {demand : Demand}
    (allowed : (g.chargeDemand config ledger now demand).verdict = .allowed) :
    g.Drew [.operations] now (g.chargeDemand config ledger now demand).usages
      (g.chargeDemand config ledger now demand).gate := by
  unfold Gate.chargeDemand Gate.drawOperations at allowed ⊢
  cases drawn : g.operations.draw? demand.function now demand.quantity demand.scale with
  | none =>
    rw [drawn] at allowed
    cases allowed
  | some draw =>
    rw [drawn] at allowed
    dsimp only at allowed ⊢
    cases granted : draw.granted with
    | false =>
      rw [granted] at allowed
      cases allowed
    | true =>
      rw [granted] at allowed
      dsimp only at allowed ⊢
      split
      · rename_i full
        rw [if_pos full] at allowed
        cases allowed
      · exact set_draw?_drew w ordered drawn granted

theorem chargeOperations_drew (w : g.WellFormed) (ordered : g.operations.Ordered)
    (allowed : (g.chargeOperations config ledger txn now).verdict = .allowed) :
    g.Drew [.operations] now (g.chargeOperations config ledger txn now).usages
      (g.chargeOperations config ledger txn now).gate := by
  unfold Gate.chargeOperations at allowed ⊢
  split
  · rename_i missing
    rw [if_pos missing] at allowed
    cases allowed
  · rename_i present
    rw [if_neg present] at allowed
    cases route : Route.ofTransaction config ledger txn with
    | charge demand =>
      rw [route] at allowed
      exact chargeDemand_drew w ordered allowed
    | unschedulable error =>
      rw [route] at allowed
      cases allowed
    | undecodable error =>
      rw [route] at allowed
      cases allowed

/-- All charges for a transaction that is let through are recorded by its usages. -/
theorem charge_drew (w : g.WellFormed) (ordered : g.operations.Ordered)
    (allowed : (g.charge config ledger txn now).verdict = .allowed) :
    g.Drew ([.gas] ++ [.bytes] ++ [.operations]) now (g.charge config ledger txn now).usages
      (g.charge config ledger txn now).gate := by
  unfold Gate.charge at allowed ⊢
  split
  · exact Gate.Drew.nothing _ now g
  · rename_i charged
    rw [if_neg charged] at allowed
    have gas : g.Related (Throttle.Drawn now) (g.chargeGas config txn now).gate :=
      chargeGas_drawn w config txn
    have both : g.Related (Throttle.Drawn now)
        ((g.chargeGas config txn now).andThen fun g => g.chargeBytes config txn now).gate :=
      andThen_drawn gas fun w => chargeBytes_drawn w config txn
    have ordered' := ordered
    unfold ThrottleSet.Ordered at ordered'
    rw [both.operations.costs] at ordered'
    refine andThen_drew (andThen_drew (chargeGas_drew w) ?_ ?_) ?_ ?_ allowed
    · exact chargeBytes_drew (wellFormed_of_drawn gas)
    · decide
    · exact chargeOperations_drew (wellFormed_of_drawn both) ordered'
    · decide

/-! ## Whole decisions -/

/-- What `usages` say of the change from `g` to `h` at `now`. -/
structure Gate.Accounts (now : Timestamp) (g : Gate) (usages : List Usage) (h : Gate) : Prop where
  /-- Every usage carries the generation of the set and names a throttle of the gate. -/
  stamped : ∀ u ∈ usages, u.generation = g.operations.generation ∧
    (g.throttle? u.throttle).isSome = true
  /-- No throttle is named twice. -/
  distinct : (usages.map (·.throttle)).Nodup
  /-- None measures operation duration. -/
  duration : Usage.names usages .opsDuration = false
  /-- What is free drops by what the usages amount to. -/
  drop : ∀ ref t, g.throttle? ref = some t → ∃ t', h.throttle? ref = some t' ∧
    t'.free now + Usage.unitsOn usages ref t = t.free now
  /-- A throttle that is not named keeps what is in use, the fraction and the time. -/
  kept : ∀ ref t, g.throttle? ref = some t → Usage.names usages ref = false →
    ∃ t', h.throttle? ref = some t' ∧ t'.bucket.used = t.bucket.used ∧
      t'.bucket.carry = t.bucket.carry ∧ t'.bucket.lastDecision = t.bucket.lastDecision

/-- The commit at the start of a decision leaves all but the provisional records. -/
theorem throttle?_commit (g : Gate) (ref : ThrottleRef) :
    g.commit.throttle? ref =
      (g.throttle? ref).map (if ref = .opsDuration then id else Throttle.commit) := by
  cases ref with
  | operations index => exact List.getElem?_map
  | gas | bytes => rfl
  | opsDuration => exact Option.map_id'.symm

/-- What does not depend on the provisional record is the same of a throttle after the commit. -/
theorem map_throttle?_commit {α : Type} {f : Throttle → α} (same : ∀ t, f t.commit = f t)
    (g : Gate) (ref : ThrottleRef) : (g.commit.throttle? ref).map f = (g.throttle? ref).map f := by
  rw [throttle?_commit, Option.map_map]
  congr 1
  split
  · rfl
  · exact funext same

/-- Usages account for the draws of a decision also from before its commit. -/
theorem Gate.Drew.accounts {kinds : List ResourceKind} {usages : List Usage} {h : Gate}
    (drew : g.commit.Drew kinds now usages h) (apart : .opsDuration ∉ kinds) :
    g.Accounts now usages h := by
  have state {ref : ThrottleRef} {t : Throttle} (here : g.throttle? ref = some t) :
      ∃ c, (c = t ∨ c = t.commit) ∧ c ∈ g.commit.throttle? ref ∧
        h.throttle? ref = some (Usage.claimOn usages ref now c) := by
    have committed := throttle?_commit g ref
    rw [here, Option.map_some] at committed
    refine ⟨_, ?_, committed, ?_⟩
    · split
      · exact Or.inl rfl
      · exact Or.inr rfl
    · rw [drew.state, committed, Option.map_some]
  refine ⟨fun u member => ⟨drew.stamped u member, ?_⟩, drew.distinct, ?_, ?_, ?_⟩
  · have there := drew.there u member
    rw [throttle?_commit, Option.isSome_map] at there
    exact there
  · refine List.any_eq_false.mpr fun u member named => apart ?_
    have own := drew.kind u member
    rw [of_decide_eq_true named] at own
    exact own
  · intro ref t here
    obtain ⟨c, either, committed, after⟩ := state here
    have drop := Usage.free_claimOn (drew.fits ref c committed)
    refine ⟨_, after, ?_⟩
    rcases either with rfl | rfl
    · exact drop
    · exact drop
  · intro ref t here unnamed
    obtain ⟨c, either, -, after⟩ := state here
    rw [Usage.claimOn_of_unnamed unnamed] at after
    refine ⟨c, after, ?_⟩
    rcases either with rfl | rfl
    · exact ⟨rfl, rfl, rfl⟩
    · exact ⟨rfl, rfl, rfl⟩

/-- The usages that an admitted transaction appends to a record account exactly for what it drew.
For an exempt payer there are none, and the decision is the commit of earlier draws. -/
theorem decideTransaction_accounts {allowed : Call → Prop} (reached : g.Reached allowed)
    (active : g.stage ≠ .passthrough) (config : Config) (ledger : LedgerView) (txn : Transaction)
    (now : Timestamp) (recorded : List Usage)
    (admitted : (g.decideTransaction config ledger txn now).result.verdict = .allowed) :
    ∃ appended,
      (g.decideTransaction config ledger txn now).result.appendTo recorded = recorded ++ appended ∧
      g.Accounts now appended (g.decideTransaction config ledger txn now).gate ∧
      (config.isExempt txn.payer = true → appended = [] ∧
        (g.decideTransaction config ledger txn now).gate =
          { g.commit with deniedByGas := false }) := by
  let start : Gate := { g.commit with deniedByGas := false }
  have committed : start.WellFormed := { commit_wellFormed reached.wellFormed with }
  have outcome : (g.decideTransaction config ledger txn now).gate =
        (start.charge config ledger txn now).gate ∧
      (g.decideTransaction config ledger txn now).result.usages =
        (start.charge config ledger txn now).usages ∧
      (start.charge config ledger txn now).verdict = .allowed := by
    unfold Gate.decideTransaction at admitted ⊢
    rw [if_neg active] at admitted ⊢
    dsimp only at admitted ⊢
    split
    · rename_i granted
      exact ⟨rfl, rfl, granted⟩
    · rename_i refused
      rw [if_neg refused] at admitted
      exact absurd admitted refused
  obtain ⟨gate, usages, granted⟩ := outcome
  refine ⟨(start.charge config ledger txn now).usages, congrArg (recorded ++ ·) usages, ?_, ?_⟩
  · have drew := charge_drew committed reached.ordered granted
    rw [gate]
    exact Gate.Drew.accounts { drew with } (by decide)
  · intro exempt
    have pass : start.charge config ledger txn now = .pass start := if_pos exempt
    rw [gate, pass]
    exact ⟨rfl, rfl⟩

/-- An oversized contract call draws gas, bytes, and operations from both buckets that list it. -/
theorem decideTransaction_accounts_contractCall :
    let rates : List BucketDefinition := [⟨"calls", 1, 0, [⟨10, 0, [.contractCall]⟩]⟩,
      ⟨"all", 2, 0, [⟨40, 0, [.contractCall]⟩, ⟨20, 0, [.cryptoTransfer]⟩]⟩]
    let config : Config :=
      { jumbo := { enabled := true, allowedFunctionalities := [.contractCall] } }
    let txn := Transaction.ofBody (.ofNumber 5000) ⟨none, .contractCall 100⟩ 7000
    let g := (Gate.new .consensus).run [.rebuild ⟨rates⟩, .applyGas config, .applyBytes config]
    let outcome := g.decideTransaction config Ledger.empty.view txn ⟨100, 0⟩
    let usages : List Usage := [⟨.gas, 100, 1⟩, ⟨.bytes, 856, 1⟩, ⟨.operations 0, 1000, 1⟩,
      ⟨.operations 1, 3000, 1⟩]
    let recorded : List Usage := [⟨.opsDuration, 7, 1⟩]
    g.Reached (fun _ => True) ∧ outcome.result.appendTo recorded = recorded ++ usages ∧
      g.Accounts ⟨100, 0⟩ usages outcome.gate := by
  intro rates config txn g outcome usages recorded
  have reached : g.Reached fun _ => True := ⟨.consensus, _, fun _ _ => trivial, rfl⟩
  have active : g.stage ≠ .passthrough := by decide +kernel
  have admitted : (g.decideTransaction config Ledger.empty.view txn ⟨100, 0⟩).result.verdict =
      .allowed := by decide +kernel
  have result : outcome.result.appendTo recorded = recorded ++ usages := by decide +kernel
  obtain ⟨appended, record, accounts, -⟩ := decideTransaction_accounts reached active config
    Ledger.empty.view txn ⟨100, 0⟩ recorded admitted
  have all : usages = appended := List.append_cancel_left (result.symm.trans record)
  exact ⟨reached, result, all ▸ accounts⟩

/-- The decision on an exempt payer's transaction commits what the one before drew, so the gate is
not always as it was. -/
theorem exempt_decision_can_commit :
    ¬ ∀ {g : Gate}, g.Reached (fun _ => True) → g.stage ≠ .passthrough →
      ∀ (config : Config) (ledger : LedgerView) (txn : Transaction) (now : Timestamp),
        config.isExempt txn.payer = true →
          (g.decideTransaction config ledger txn now).gate = g := by
  intro unchanged
  let bucket : BucketDefinition := ⟨"calls", 1, 0, [⟨10, 0, [.contractCall]⟩]⟩
  let body : TransactionBody := ⟨none, .contractCall 4⟩
  let charged : Call :=
    .transaction {} Ledger.empty.view (.ofBody (.ofNumber 5000) body 200) ⟨100, 0⟩
  have reached : Gate.Reached (fun _ => True)
      ((Gate.new .consensus).run [.rebuild ⟨[bucket]⟩, .applyGas {}, charged]) :=
    ⟨.consensus, _, fun _ _ => trivial, rfl⟩
  have same := unchanged reached (by decide +kernel) {} Ledger.empty.view
    (.ofBody (.ofNumber 2) body 200) ⟨100, 0⟩ (by decide +kernel)
  exact absurd same (by decide +kernel)

end Throttling
