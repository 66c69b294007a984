import Throttling.Proofs.Gate.Admission
import Throttling.Proofs.Gate.Exemption

/-!
# Which queries are admitted

A query is decided on one of three paths: past every throttle, on the gas throttle alone, or on the
throttles of operations that its functionality draws from. Whichever it is, the decision comes to
one condition on the gate before the call, and an admitted query takes exactly its charges
(`decideQuery_exact`). What earlier decisions left uncommitted has no part in either.
-/

set_option autoImplicit false

namespace Throttling

/-! ## The reference -/

/-- The query is for an exempt payer, or is metered in gas while gas is not throttled. -/
def Query.Free (query : Query) (config : Config) (payer : Option AccountId) : Prop :=
  (∃ account ∈ payer, account.ExemptUnder config) ∨
    query.function.gasMetered = true ∧ config.contracts.throttleByGas = false

/-- The gas that a query asks for: the most there can be if its limit is negative. -/
def Query.gas : Query → Nat
  | .contractCallLocal limit => if limit < 0 then 2 ^ 63 - 1 else min limit.toNat (2 ^ 63 - 1)
  | _ => 0

/-- The units that a query is charged. A balance query that is counted is charged one for each
association of the account, within limits. -/
def Query.units (config : Config) (ledger : LedgerView) : Query → Nat
  | .accountBalance account =>
    if config.tokens.countingGetBalanceThrottleEnabled = true then
      min (max ((account.bind ledger.associations).getD 0) 1)
        (max config.tokens.maxRelsPerInfoQuery 1)
    else 1
  | _ => 1

/-- What a query is charged, throttle by throttle, in bucket units; none if its functionality has no
tariff. -/
def Gate.queryCharges (g : Gate) (config : Config) (ledger : LedgerView) (query : Query) :
    Option (List (ThrottleRef × Nat)) :=
  if query.function.gasMetered then some [(.gas, query.gas)]
  else
    (g.operations.tariff? query.function).map fun tariff => tariff.requirements.map fun r =>
      (.operations r.throttle, Word.saturate64 (1000 * r.milliOps * query.units config ledger))

/-- The query can be charged, and each throttle that it is charged on has the charge free. -/
def Gate.AdmitsQuery (g : Gate) (config : Config) (ledger : LedgerView) (query : Query)
    (now : Timestamp) : Prop :=
  ∃ charges, g.queryCharges config ledger query = some charges ∧
    ∀ c ∈ charges, Throttle.Provides (g.throttle? c.1) now c.2

/-- The gate `h` is `g` with charges drawn at `now`. -/
structure Gate.Charged (now : Timestamp) (g : Gate) (charges : List (ThrottleRef × Nat))
    (h : Gate) : Prop where
  /-- No throttle is charged twice. -/
  distinct : (charges.map (·.1)).Nodup
  /-- What is free of a charged throttle drops by the charge. -/
  drop : ∀ c ∈ charges, ∃ t t', g.throttle? c.1 = some t ∧ h.throttle? c.1 = some t' ∧
    t'.free now + c.2 = t.free now
  /-- The others keep what is in use, the fraction and the time. -/
  kept : ∀ ref, ref ∉ charges.map (·.1) →
    (h.throttle? ref).map Throttle.level = (g.throttle? ref).map Throttle.level

/-! ## What holds of every gate reached -/

variable {g : Gate}

def Invariant.counts : Invariant where
  holds := fun kind t => kind = .operations → t.unitsPerAmount = microsPerMilli
  times := fun _ => True
  stored := fun _ => True
  commit := fun h => h
  draw? := by
    intro kind t t' now amount _ h drawn
    obtain ⟨_, -, rfl⟩ := Option.map_eq_some_iff.mp drawn
    exact h
  revoke := fun h _ => h
  rollback := fun h => h
  refund := fun h _ => h
  restore := fun _ h => h
  compiled := by
    intro definition split bucket compiled _
    obtain ⟨_, compiles⟩ := BucketDefinition.compiles_of_compile compiled
    rw [(Throttle.operations_eq_ok compiles.throttle).2]
  perSecond := fun other _ _ own => absurd own other

theorem Gate.Reached.counts {allowed : Call → Prop} (reached : g.Reached allowed) :
    ∀ t ∈ g.operations.throttles, t.unitsPerAmount = microsPerMilli := by
  have each : g.Each Invariant.counts.holds :=
    Gate.Reached.each .counts (reached.imp fun _ _ => ⟨fun _ _ => trivial, fun _ _ => trivial⟩)
  exact fun t member => each.operations t member rfl

/-- Nothing that has a tariff is free of charge. -/
theorem Gate.Reached.costs_pos {allowed : Call → Prop} (reached : g.Reached allowed) :
    ∀ cost ∈ g.operations.costs, 0 < cost.2.milliOps := by
  refine Gate.Reached.induction (P := fun g => ∀ cost ∈ g.operations.costs, 0 < cost.2.milliOps)
    (fun _ => List.forall_mem_nil _) (fun g reached positive c _ => ?_) reached
  rcases call_costs reached.wellFormed c with same | ⟨definitions, split, generation, compiled⟩
  · rw [same]
    exact positive
  · rw [compiled]
    intro cost member
    obtain ⟨⟨bucket, position⟩, accepted, own⟩ := List.mem_flatMap.mp member
    obtain ⟨priced, there, rfl⟩ := List.mem_map.mp own
    obtain ⟨b, -, compiled⟩ :=
      ThrottleSet.mem_accepted_iff.mp (List.fst_mem_of_mem_zipIdx accepted)
    exact BucketDefinition.cost_pos_of_compile compiled priced there

/-! ## Charges -/

variable {config : Config} {ledger : LedgerView} {query : Query} {now : Timestamp}

theorem queryGas_eq (query : Query) : Gate.queryGas query = query.gas := by
  cases query <;> rfl

theorem gas_le (query : Query) : query.gas ≤ Word.max64 := by
  cases query with
  | contractCallLocal limit =>
    simp only [Query.gas, Word.max64]
    split <;> omega
  | accountBalance account => exact Nat.zero_le _
  | other function => exact Nat.zero_le _

theorem units_pos (query : Query) : 0 < query.units config ledger := by
  cases query with
  | accountBalance account =>
    simp only [Query.units]
    split <;> omega
  | contractCallLocal limit => exact Nat.zero_lt_one
  | other function => exact Nat.zero_lt_one

theorem queryUnits_eq (config : Config) (ledger : LedgerView) (query : Query) :
    Gate.queryUnits config ledger query = query.units config ledger := by
  cases query with
  | accountBalance account =>
    cases account <;> simp [Gate.queryUnits, Query.units, Query.function]
  | contractCallLocal limit => rfl
  | other function => simp [Gate.queryUnits, Query.units]

/-- The minimum of one milli-operation is no charge on a quantity that costs anything. -/
theorem Tariff.amount_one {milliOps quantity : Nat} (positive : 0 < milliOps * quantity) :
    Tariff.amount milliOps quantity .one = Word.saturate64 (milliOps * quantity) := by
  simp only [Tariff.amount, ScaleFactor.apply, ScaleFactor.one, Word.saturate64, Word.max64,
    Nat.mul_one, Nat.div_one]
  omega

/-- A quantity at scale one is recorded as the cost of each requirement times the quantity. -/
theorem ThrottleSet.usages_one {s : ThrottleSet} {function : Functionality} {tariff : Tariff}
    (found : s.tariff? function = some tariff) {quantity : Nat}
    (positive : ∀ r ∈ tariff.requirements, 0 < r.milliOps * quantity) :
    (tariff.portions quantity .one).map tariff.usage =
      tariff.requirements.map fun r => ⟨.operations r.throttle,
        Word.saturate64 (r.milliOps * quantity), s.generation⟩ := by
  rw [Tariff.portions, List.map_map]
  refine List.map_congr_left fun r member => ?_
  have amount := Tariff.amount_one (positive r member)
  simp only [Function.comp_apply, Tariff.usage, amount, ThrottleSet.generation_of_tariff? found]

/-- A quantity at scale one draws its cost in micro-operations. -/
theorem units_amount {t : Throttle} (counts : t.unitsPerAmount = microsPerMilli)
    {milliOps quantity : Nat} (positive : 0 < milliOps * quantity) :
    t.units (Tariff.amount milliOps quantity .one) =
      Word.saturate64 (1000 * milliOps * quantity) := by
  rw [Throttle.units, counts, Tariff.amount_one positive, Nat.mul_assoc 1000]
  simp only [microsPerMilli, Word.saturate64, Word.max64]
  omega

/-- The charges of a query that is not metered in gas are those of its functionality's tariff. -/
theorem queryCharges_eq_some_iff (ungassed : ¬ query.function.gasMetered = true)
    {charges : List (ThrottleRef × Nat)} :
    g.queryCharges config ledger query = some charges ↔
      ∃ tariff, g.operations.tariff? query.function = some tariff ∧
        charges = tariff.requirements.map fun r => (.operations r.throttle,
          Word.saturate64 (1000 * r.milliOps * query.units config ledger)) := by
  rw [Gate.queryCharges, if_neg ungassed, Option.map_eq_some_iff]
  exact exists_congr fun tariff => and_congr_right fun _ => eq_comm

/-- No requirement of a gate that is reached is free of charge. -/
theorem Gate.Reached.milliOps_pos {allowed : Call → Prop} (reached : g.Reached allowed)
    {function : Functionality} {tariff : Tariff}
    (found : g.operations.tariff? function = some tariff) :
    ∀ r ∈ tariff.requirements, 0 < r.milliOps := by
  intro r member
  rw [ThrottleSet.requirements_of_tariff? found] at member
  obtain ⟨cost, priced, own⟩ := List.mem_filterMap.mp member
  have costs := reached.costs_pos cost priced
  split at own
  · cases own
    exact costs
  · cases own

/-- What a requirement of a gate that is reached is charged for a query. -/
theorem Gate.Reached.units_eq {allowed : Call → Prop} (reached : g.Reached allowed)
    {function : Functionality} {tariff : Tariff}
    (found : g.operations.tariff? function = some tariff) {r : Requirement}
    (member : r ∈ tariff.requirements) {t : Throttle}
    (here : g.operations.throttles[r.throttle]? = some t) {quantity : Nat}
    (positive : 0 < quantity) :
    t.units (Tariff.amount r.milliOps quantity .one) =
      Word.saturate64 (1000 * r.milliOps * quantity) :=
  units_amount (reached.counts t (List.mem_of_getElem? here))
    (Nat.mul_pos (reached.milliOps_pos found r member) positive)

/-- The tariff has room for a query exactly if its charges are provided for. -/
theorem hasRoom_iff_admitsQuery {allowed : Call → Prop} (reached : g.Reached allowed)
    (ungassed : ¬ query.function.gasMetered = true) :
    g.operations.HasRoom query.function now (query.units config ledger) .one ↔
      g.AdmitsQuery config ledger query now := by
  unfold Gate.AdmitsQuery ThrottleSet.HasRoom
  simp only [queryCharges_eq_some_iff ungassed]
  constructor
  · rintro ⟨tariff, found, room⟩
    refine ⟨_, ⟨tariff, found, rfl⟩, List.forall_mem_map.mpr fun r member => ?_⟩
    obtain ⟨t, here, nonzero, fits⟩ := room r member
    rw [reached.units_eq found member here (units_pos query)] at fits
    exact ⟨t, here, nonzero, fits⟩
  · rintro ⟨_, ⟨tariff, found, rfl⟩, provided⟩
    refine ⟨tariff, found, fun r member => ?_⟩
    obtain ⟨t, here, nonzero, fits⟩ := List.forall_mem_map.mp provided r member
    refine ⟨t, here, nonzero, ?_⟩
    rw [reached.units_eq found member here (units_pos query)]
    exact fits

/-! ## Decisions -/

theorem decideOperations_of_granted {function : Functionality} {quantity : Nat}
    {draw : ThrottleSet.Draw}
    (drawn : g.commit.operations.draw? function now quantity .one = some draw)
    (granted : draw.granted = true) :
    g.decideOperations function now quantity =
      ⟨{ g.commit with operations := draw.set }, false, []⟩ := by
  unfold Gate.decideOperations
  dsimp only
  rw [drawn]
  exact if_pos granted

/-- A decision on operations admits exactly if its draw is granted. -/
theorem decideOperations_admits {function : Functionality} {quantity : Nat} :
    (g.decideOperations function now quantity).result = false ↔
      ∃ draw, g.commit.operations.draw? function now quantity .one = some draw ∧
        draw.granted = true := by
  unfold Gate.decideOperations
  dsimp only
  cases g.commit.operations.draw? function now quantity .one with
  | none => simp
  | some draw => cases granted : draw.granted <;> simp [granted]

/-- A query that is not metered in gas is admitted exactly if the throttles of its tariff provide
what it is charged. -/
theorem decideOperations_admits_iff {allowed : Call → Prop} (reached : g.Reached allowed)
    (ungassed : ¬ query.function.gasMetered = true) :
    (g.decideOperations query.function now (query.units config ledger)).result = false ↔
      g.AdmitsQuery config ledger query now := by
  have committed := commit_wellFormed reached.wellFormed
  have ordered : g.commit.operations.Ordered := reached.ordered
  have room : g.commit.operations.HasRoom = g.operations.HasRoom := hasRoom_commit g.operations
  rw [decideOperations_admits, ← hasRoom_iff_admitsQuery reached ungassed, ← room]
  exact ThrottleSet.draw?_granted_iff ordered committed.operations

/-- A query that is admitted on the throttles of operations takes its charges from them. -/
theorem decideOperations_charged {allowed : Call → Prop} (reached : g.Reached allowed)
    (ungassed : ¬ query.function.gasMetered = true) (admitted :
      (g.decideOperations query.function now (query.units config ledger)).result = false) :
    ∃ charges, g.queryCharges config ledger query = some charges ∧
      g.Charged now charges
        (g.decideOperations query.function now (query.units config ledger)).gate := by
  obtain ⟨draw, drawn, granted⟩ := decideOperations_admits.mp admitted
  have drew := set_draw?_drew (commit_wellFormed reached.wellFormed) reached.ordered drawn granted
  rw [decideOperations_of_granted drawn granted]
  obtain ⟨tariff, found, rfl⟩ := Option.map_eq_some_iff.mp drawn
  have usages := Tariff.usages_of_granted granted
  dsimp only at drew ⊢
  rw [usages] at drew
  have accounts := drew.accounts (by decide)
  refine ⟨_, (queryCharges_eq_some_iff ungassed).mpr ⟨tariff, found, rfl⟩, ?_⟩
  have refs : ((tariff.portions (query.units config ledger) .one).map tariff.usage).map
      (·.throttle) = (tariff.requirements.map fun r => (ThrottleRef.operations r.throttle,
        Word.saturate64 (1000 * r.milliOps * query.units config ledger))).map (·.1) := by
    simp only [Tariff.portions, List.map_map]
    rfl
  refine ⟨refs ▸ accounts.distinct, List.forall_mem_map.mpr fun r member => ?_, fun ref other => ?_⟩
  · have own : (⟨.operations r.throttle, Tariff.amount r.milliOps (query.units config ledger) .one,
        tariff.generation⟩ : Usage) ∈
          (tariff.portions (query.units config ledger) .one).map tariff.usage := by
      rw [Tariff.portions, List.map_map]
      exact List.mem_map_of_mem member
    obtain ⟨t, here⟩ := Option.isSome_iff_exists.mp (accounts.stamped _ own).2
    obtain ⟨t', after, drop⟩ := accounts.drop _ t here
    have units := Usage.unitsOn_of_distinct accounts.distinct own t
    rw [units, reached.units_eq found member here (units_pos query)] at drop
    exact ⟨t, t', here, after, drop⟩
  · have unnamed := Usage.names_eq_false_iff.mpr (refs ▸ other)
    rw [drew.state, Usage.claimOn_of_unnamed unnamed, Option.map_id, id]
    exact map_throttle?_commit (fun _ => rfl) g ref

/-! ## Gas -/

theorem queryCharges_gas (gassed : query.function.gasMetered = true) :
    g.queryCharges config ledger query = some [(.gas, query.gas)] := if_pos gassed

theorem admitsQuery_gas_iff (gassed : query.function.gasMetered = true) :
    g.AdmitsQuery config ledger query now ↔ Throttle.Provides g.gas now query.gas := by
  unfold Gate.AdmitsQuery
  rw [queryCharges_gas gassed]
  simp only [Option.some.injEq, exists_eq_left', List.forall_mem_singleton]
  rfl

/-- A query that is metered in gas is admitted exactly if the gas throttle provides what it asks
for, and takes just that. -/
theorem decideGasQuery_exact (sound : ∀ t ∈ g.gas, t.Sound .gas)
    (gassed : query.function.gasMetered = true) (config : Config) (ledger : LedgerView)
    (now : Timestamp) :
    ((g.decideGasQuery query now).result = false ↔ g.AdmitsQuery config ledger query now) ∧
      ((g.decideGasQuery query now).result = false →
        ∃ charges, g.queryCharges config ledger query = some charges ∧
          g.Charged now charges (g.decideGasQuery query now).gate) := by
  rw [admitsQuery_gas_iff gassed, queryCharges_gas gassed]
  simp only [Option.some.injEq, exists_eq_left']
  unfold Gate.decideGasQuery Throttle.Provides
  rw [queryGas_eq]
  cases here : g.gas with
  | none => simp
  | some t =>
    have own := sound t here
    have w : t.commit.bucket.WellFormed := Bucket.commit_wellFormed own.wellFormed
    have units : t.commit.units query.gas = query.gas := own.units_eq (by decide) (gas_le query)
    have free : t.commit.free now = t.free now := rfl
    have capacity : t.commit.capacity = t.capacity := rfl
    simp only [Option.some.injEq, exists_eq_left', Throttle.draw?_eq w, units, free, capacity]
    by_cases room : t.capacity ≠ 0 ∧ query.gas ≤ t.free now
    · rw [if_pos room]
      refine ⟨iff_of_true rfl room, fun _ => ⟨List.nodup_singleton _, ?_, fun ref other => ?_⟩⟩
      · have drop := Throttle.free_claim t.commit now query.gas
        rw [free] at drop
        refine List.forall_mem_singleton.mpr
          ⟨t, (t.commit.claim now query.gas).commit, here, rfl, ?_⟩
        change (t.commit.claim now query.gas).free now + query.gas = t.free now
        rw [drop]
        exact Nat.sub_add_cancel room.2
      · cases ref with
        | gas => exact absurd (List.mem_singleton_self _) other
        | operations | bytes | opsDuration => rfl
    · rw [if_neg room]
      exact ⟨iff_of_false (by simp) room, fun admitted => by cases admitted⟩

/-! ## The whole decision -/

theorem free_iff {payer : Option AccountId} :
    query.Free config payer ↔ payer.any config.isExempt = true ∨
      query.function.gasMetered = true ∧ config.contracts.throttleByGas = false := by
  refine or_congr_left ?_
  rw [Option.any_eq_true]
  exact exists_congr fun account => and_congr_right fun _ => Config.isExempt_iff.symm

/-- At ingest and at consensus, a query that is free is admitted and nothing changes. Any other
query is admitted exactly if what it is charged is free before the call, and then exactly that is
taken from the throttles charged and nothing from the others. -/
theorem decideQuery_exact {allowed : Call → Prop} (reached : g.Reached allowed)
    (active : g.stage ≠ .passthrough) (config : Config) (ledger : LedgerView) (query : Query)
    (payer : Option AccountId) (now : Timestamp) :
    (query.Free config payer →
      g.decideQuery config ledger query payer now = g.unchanged false) ∧
    (¬ query.Free config payer →
      ((g.decideQuery config ledger query payer now).result = false ↔
        g.AdmitsQuery config ledger query now) ∧
      ((g.decideQuery config ledger query payer now).result = false →
        ∃ charges, g.queryCharges config ledger query = some charges ∧
          g.Charged now charges (g.decideQuery config ledger query payer now).gate)) := by
  rw [free_iff]
  unfold Gate.decideQuery
  rw [if_neg active]
  by_cases exempt : payer.any config.isExempt = true
  · rw [if_pos exempt]
    exact ⟨fun _ => rfl, fun charged => absurd (Or.inl exempt) charged⟩
  rw [if_neg exempt, or_iff_right exempt, queryUnits_eq]
  by_cases gassed : query.function.gasMetered = true
  · rw [if_pos gassed]
    cases throttled : config.contracts.throttleByGas with
    | false => exact ⟨fun _ => rfl, fun charged => absurd ⟨gassed, rfl⟩ charged⟩
    | true =>
      exact ⟨fun free => Bool.noConfusion free.2,
        fun _ => decideGasQuery_exact reached.sound.gas gassed config ledger now⟩
  · rw [if_neg gassed]
    exact ⟨fun free => absurd free.1 gassed, fun _ =>
      ⟨decideOperations_admits_iff reached gassed, decideOperations_charged reached gassed⟩⟩

/-- A counted balance query of an account with seven associations, of which five are charged, right
after one that is not committed yet. -/
theorem decideQuery_exact_counted :
    let bucket : BucketDefinition := ⟨"queries", 1, 0, [⟨10, 0, [.cryptoGetAccountBalance]⟩]⟩
    let config : Config :=
      { tokens := { countingGetBalanceThrottleEnabled := true, maxRelsPerInfoQuery := 5 } }
    let ledger := (Ledger.empty.withAccount 5000 7).view
    let balance := Query.accountBalance (some (.ofNumber 5000))
    let g := (Gate.new .ingest).run
      [.rebuild ⟨[bucket]⟩, .query config ledger balance none ⟨100, 0⟩]
    g.Reached (fun _ => True) ∧ g.stage ≠ .passthrough ∧
      g.AdmitsQuery config ledger balance ⟨100, 0⟩ ∧
      ∃ charges, g.queryCharges config ledger balance = some charges ∧
        charges = [(.operations 0, 5000000)] ∧
        g.Charged ⟨100, 0⟩ charges (g.decideQuery config ledger balance none ⟨100, 0⟩).gate := by
  intro bucket config ledger balance g
  have reached : g.Reached fun _ => True := ⟨.ingest, _, fun _ _ => trivial, rfl⟩
  have active : g.stage ≠ .passthrough := by decide +kernel
  have charged : ¬ balance.Free config none := by
    rintro (⟨account, named, -⟩ | ⟨gassed, -⟩)
    · cases named
    · exact absurd gassed (by decide)
  obtain ⟨admits, takes⟩ :=
    (decideQuery_exact reached active config ledger balance none ⟨100, 0⟩).2 charged
  have admitted : (g.decideQuery config ledger balance none ⟨100, 0⟩).result = false := by
    decide +kernel
  obtain ⟨charges, listed, exact⟩ := takes admitted
  have five : g.queryCharges config ledger balance = some [(.operations 0, 5000000)] := by
    decide +kernel
  exact ⟨reached, active, admits.mp admitted, charges, listed,
    Option.some.inj (listed.symm.trans five), exact⟩

end Throttling
