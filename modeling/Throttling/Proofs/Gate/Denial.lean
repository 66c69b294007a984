import Throttling.Proofs.Gate.Invariant

/-!
# What a denied decision leaves behind

The charges of a decision draw from the throttles they name and leave the others alone, and the
throttle of operation duration is not among them. After a denial the rollback hands back all that
was drawn: each throttle is left as it was, at most committed and leaked up to the instant, and no
usage is recorded (`call_denied`). This covers a denial at any point, also after several charges
were granted.
-/

set_option autoImplicit false

namespace Throttling

/-! ## Charges -/

/-- What the charges of a decision may do to a throttle: claim units that are free, unless it meters
operation duration. -/
structure Throttle.Drawn (now : Timestamp) (kind : ResourceKind) (t t' : Throttle) : Prop where
  wellFormed : t.bucket.WellFormed
  touched : Throttle.Touched now t t'
  apart : kind = .opsDuration → t' = t

namespace Throttle

variable {now : Timestamp} {kind : ResourceKind} {t t' t'' : Throttle}

theorem Touched.trans (first : Touched now t t') (second : Touched now t' t'') :
    Touched now t t'' := by
  rcases first with rfl | ⟨units, fits, rfl⟩
  · exact second
  rcases second with rfl | ⟨more, fits', rfl⟩
  · exact Or.inr ⟨units, fits, rfl⟩
  · rw [free_claim] at fits'
    exact Or.inr ⟨units + more, by omega, claim_claim t now units more⟩

theorem Drawn.refl (w : t.bucket.WellFormed) : Drawn now kind t t := ⟨w, Or.inl rfl, fun _ => rfl⟩

theorem Drawn.trans (first : Drawn now kind t t') (second : Drawn now kind t' t'') :
    Drawn now kind t t'' where
  wellFormed := first.wellFormed
  touched := first.touched.trans second.touched
  apart := fun own => (second.apart own).trans (first.apart own)

theorem drawn_of_draw? (w : t.bucket.WellFormed) (other : kind ≠ .opsDuration) {amount : Nat}
    (drawn : t.draw? now amount = some t') : Drawn now kind t t' := by
  rw [draw?_eq w] at drawn
  split at drawn
  · rename_i room
    cases drawn
    exact ⟨w, Or.inr ⟨_, room.2, rfl⟩, fun own => absurd own other⟩
  · cases drawn

end Throttle

def Gate.WellFormed (g : Gate) : Prop := g.Each fun _ t => t.bucket.WellFormed

theorem Gate.Each.wellFormed {g : Gate} (sound : g.Each Throttle.Sound) : g.WellFormed :=
  sound.imp fun _ _ own => own.wellFormed

theorem Gate.Reached.wellFormed {allowed : Call → Prop} {g : Gate} (reached : g.Reached allowed) :
    g.WellFormed := reached.sound.wellFormed

variable {g h : Gate} {now : Timestamp}

theorem commit_wellFormed (w : g.WellFormed) : g.commit.WellFormed :=
  w.commit fun _ _ => Bucket.commit_wellFormed

private theorem drawn_refl (w : g.WellFormed) : g.Related (Throttle.Drawn now) g :=
  w.related fun _ _ => Throttle.Drawn.refl

/-- The gate after charges is well formed. -/
theorem wellFormed_of_drawn (drawn : g.Related (Throttle.Drawn now) h) : h.WellFormed :=
  drawn.each_right fun _ _ _ own => own.touched.wellFormed own.wellFormed

/-- Charges made in turn draw as one. -/
theorem andThen_drawn {a : Attempt} (first : g.Related (Throttle.Drawn now) a.gate)
    {next : Gate → Attempt}
    (rest : ∀ {h : Gate}, h.WellFormed → h.Related (Throttle.Drawn now) (next h).gate) :
    g.Related (Throttle.Drawn now) (a.andThen next).gate := by
  unfold Attempt.andThen
  split
  · exact first.comp (fun _ _ _ _ => Throttle.Drawn.trans) (rest (wellFormed_of_drawn first))
  · exact first

theorem chargeGas_drawn (w : g.WellFormed) (config : Config) (txn : Transaction) :
    g.Related (Throttle.Drawn now) (g.chargeGas config txn now).gate := by
  have still : g.Related (Throttle.Drawn now) g := drawn_refl w
  unfold Gate.chargeGas
  dsimp only
  split
  · split
    · exact still
    · rename_i t gas
      split
      · exact { still with }
      · rename_i t' drawn
        have own : Throttle.Drawn now .gas t t' :=
          Throttle.drawn_of_draw? (w.gas t gas) (by decide) drawn
        exact { still with gas := gas ▸ .some own }
  · exact still

theorem chargeBytes_drawn (w : g.WellFormed) (config : Config) (txn : Transaction) :
    g.Related (Throttle.Drawn now) (g.chargeBytes config txn now).gate := by
  have still : g.Related (Throttle.Drawn now) g := drawn_refl w
  unfold Gate.chargeBytes
  dsimp only
  split
  · split
    · exact still
    · rename_i t bytes
      split
      · exact still
      · rename_i t' drawn
        have own : Throttle.Drawn now .bytes t t' :=
          Throttle.drawn_of_draw? (w.bytes t bytes) (by decide) drawn
        exact { still with bytes := bytes ▸ .some own }
  · exact still

/-- A draw on the set claims free units of operations at most. -/
theorem set_draw?_drawn (w : g.WellFormed) {function : Functionality} {quantity : Nat}
    {scale : ScaleFactor} {draw : ThrottleSet.Draw}
    (drawn : g.operations.draw? function now quantity scale = some draw) :
    g.Related (Throttle.Drawn now) { g with operations := draw.set } := by
  have still : g.Related (Throttle.Drawn now) g := drawn_refl w
  obtain ⟨tariff, -, rfl⟩ := Option.map_eq_some_iff.mp drawn
  have operations : List.Forall₂ (Throttle.Drawn now .operations) g.operations.throttles
      (tariff.draw g.operations.throttles now quantity scale).throttles := by
    rw [Tariff.draw_eq]
    have touched : List.Forall₂ (Throttle.Touched now) g.operations.throttles
        (Portion.drawAll now (tariff.portions quantity scale) g.operations.throttles).2 :=
      Portion.drawAll_touched w.operations
    have both := (List.forall₂_and_left _ _).mpr ⟨w.operations, touched⟩
    exact both.imp fun t t' own => ⟨own.1, own.2, fun other => by cases other⟩
  exact
    { still with operations := { still.operations with throttles := operations } }

private theorem chargeDemand_drawn (w : g.WellFormed) (config : Config) (ledger : LedgerView)
    (demand : Demand) :
    g.Related (Throttle.Drawn now) (g.chargeDemand config ledger now demand).gate := by
  have drawn : g.Related (Throttle.Drawn now)
      (g.drawOperations demand.function now demand.quantity demand.scale).2.1 := by
    unfold Gate.drawOperations
    split
    · exact drawn_refl w
    · exact set_draw?_drawn w ‹_›
  unfold Gate.chargeDemand
  split
  · rename_i result
    rw [result] at drawn
    exact drawn
  · rename_i result
    rw [result] at drawn
    split
    · exact drawn
    · exact drawn

private theorem chargeOperations_drawn (w : g.WellFormed) (config : Config) (ledger : LedgerView)
    (txn : Transaction) :
    g.Related (Throttle.Drawn now) (g.chargeOperations config ledger txn now).gate := by
  unfold Gate.chargeOperations
  split
  · exact drawn_refl w
  · split
    · exact chargeDemand_drawn w config ledger _
    · exact drawn_refl w
    · exact drawn_refl w

/-- All charges together claim free units at most. -/
theorem charge_drawn (w : g.WellFormed) (config : Config) (ledger : LedgerView)
    (txn : Transaction) (now : Timestamp) :
    g.Related (Throttle.Drawn now) (g.charge config ledger txn now).gate := by
  unfold Gate.charge
  split
  · exact drawn_refl w
  · refine andThen_drawn (andThen_drawn (chargeGas_drawn w config txn) ?_) ?_
    · exact fun w => chargeBytes_drawn w config txn
    · exact fun w => chargeOperations_drawn w config ledger txn

/-! ## Denials -/

/-- The throttle as it was, at most committed and leaked up to `now`. -/
def Throttle.Settled (now : Timestamp) (t t' : Throttle) : Prop :=
  t' = t ∨ t' = t.commit ∨ t' = t.commit.claim now 0

theorem Throttle.rollback_commit {t : Throttle} (w : t.bucket.WellFormed) :
    t.commit.rollback = t.commit :=
  congrArg (fun bucket => { t with bucket }) (Bucket.rollback_commit w)

/-- Rolled back, a throttle that was drawn from after its commit is settled. -/
theorem Throttle.settled_of_drawn {t t' : Throttle} (w : t.bucket.WellFormed)
    (touched : Touched now t.commit t') : Settled now t t'.rollback := by
  rcases touched with rfl | ⟨units, -, rfl⟩
  · exact Or.inr (Or.inl (rollback_commit w))
  · have committed := Bucket.commit_wellFormed w
    refine Or.inr (Or.inr (congrArg (fun bucket => { t with bucket }) ?_))
    exact Bucket.rollback_claim committed rfl now units

private theorem rel_settled {kind : ResourceKind} {x y : Option Throttle}
    (w : ∀ t ∈ x, t.bucket.WellFormed)
    (drawn : Option.Rel (Throttle.Drawn now kind) (x.map Throttle.commit) y) :
    Option.Rel (Throttle.Settled now) x (y.map Throttle.rollback) := by
  cases x with
  | none =>
    cases drawn
    exact .none
  | some t =>
    cases drawn with
    | some own => exact .some (Throttle.settled_of_drawn (w t rfl) own.touched)

/-- A rollback after the commit and the draws of a decision settles every throttle. -/
theorem rollback_settled (w : g.WellFormed)
    (drawn : g.commit.Related (Throttle.Drawn now) h) :
    g.Related (fun _ => Throttle.Settled now) h.rollback where
  stage := drawn.stage
  verbose := drawn.verbose
  split := drawn.split
  nextGeneration := drawn.nextGeneration
  operations :=
    { costs := drawn.operations.costs
      split := drawn.operations.split
      generation := drawn.operations.generation
      throttles := by
        have each := List.forall₂_map_left_iff.mp drawn.operations.throttles
        have both := (List.forall₂_and_left _ _).mpr ⟨w.operations, each⟩
        exact List.forall₂_map_right_iff.mpr
          (both.imp fun t t' own => Throttle.settled_of_drawn own.1 own.2.touched) }
  gas := rel_settled w.gas drawn.gas
  bytes := rel_settled w.bytes drawn.bytes
  opsDuration := rel_imp (fun _ _ own => Or.inl (own.apart rfl)) drawn.opsDuration

private theorem settled_refl (w : g.WellFormed) : g.Related (fun _ => Throttle.Settled now) g :=
  w.related fun _ _ _ => Or.inl rfl

private theorem commit_settled (w : g.WellFormed) :
    g.Related (fun _ => Throttle.Settled now) g.commit := by
  have still : g.Related (fun _ => Throttle.Settled now) g := settled_refl w
  have committed {x : Option Throttle} :
      Option.Rel (Throttle.Settled now) x (x.map Throttle.commit) := by
    cases x with
    | none => exact .none
    | some t => exact .some (Or.inr (Or.inl rfl))
  have throttles : List.Forall₂ (Throttle.Settled now) g.operations.throttles
      (g.operations.throttles.map Throttle.commit) :=
    List.forall₂_map_right_iff.mpr (List.forall₂_same.mpr fun _ _ => Or.inr (Or.inl rfl))
  exact
    { still with
      operations := { still.operations with throttles }
      gas := committed
      bytes := committed }

theorem decideTransaction_denied (w : g.WellFormed) {config : Config} {ledger : LedgerView}
    {txn : Transaction}
    (denied : (g.decideTransaction config ledger txn now).result.verdict ≠ .allowed) :
    g.Related (fun _ => Throttle.Settled now) (g.decideTransaction config ledger txn now).gate ∧
      (g.decideTransaction config ledger txn now).result.usages = [] := by
  have committed : Gate.WellFormed { g.commit with deniedByGas := false } :=
    { commit_wellFormed w with }
  have drawn := charge_drawn committed config ledger txn now
  unfold Gate.decideTransaction at denied ⊢
  split at denied
  · exact absurd rfl denied
  · rename_i active
    rw [if_neg active]
    dsimp only at denied ⊢
    split at denied
    · exact absurd rfl denied
    · rename_i refused
      rw [if_neg refused]
      exact ⟨rollback_settled w { drawn with }, rfl⟩

private theorem decideOperations_denied (w : g.WellFormed) {function : Functionality}
    {quantity : Nat} (denied : (g.decideOperations function now quantity).result = true) :
    g.Related (fun _ => Throttle.Settled now) (g.decideOperations function now quantity).gate := by
  unfold Gate.decideOperations at denied ⊢
  dsimp only at denied ⊢
  split
  · exact commit_settled w
  · rename_i draw drawn
    rw [drawn] at denied
    dsimp only at denied
    split at denied
    · cases denied
    · rename_i refused
      rw [if_neg refused]
      exact rollback_settled w (set_draw?_drawn (commit_wellFormed w) drawn)

private theorem decideGasQuery_denied (w : g.WellFormed) {query : Query}
    (denied : (g.decideGasQuery query now).result = true) :
    g.Related (fun _ => Throttle.Settled now) (g.decideGasQuery query now).gate := by
  have still : g.Related (fun _ => Throttle.Settled now) g := settled_refl w
  revert denied
  unfold Gate.decideGasQuery
  split
  · exact fun _ => still
  · rename_i t gas
    split
    · exact fun _ => { still with gas := gas ▸ .some (Or.inr (Or.inl rfl)) }
    · intro denied
      cases denied

private theorem decideQuery_denied (w : g.WellFormed) {config : Config} {ledger : LedgerView}
    {query : Query} {payer : Option AccountId}
    (denied : (g.decideQuery config ledger query payer now).result = true) :
    g.Related (fun _ => Throttle.Settled now)
      (g.decideQuery config ledger query payer now).gate := by
  have still : g.Related (fun _ => Throttle.Settled now) g := settled_refl w
  revert denied
  unfold Gate.decideQuery
  split
  · exact fun _ => still
  · split
    · exact fun _ => still
    · split
      · split
        · exact decideGasQuery_denied w
        · exact fun _ => still
      · exact decideOperations_denied w

private theorem decideOpsDuration_denied (w : g.WellFormed) {config : Config} {duration : Nat}
    (denied : (g.decideOpsDuration config duration now).result = true) :
    g.Related (fun _ => Throttle.Settled now) (g.decideOpsDuration config duration now).gate := by
  have still : g.Related (fun _ => Throttle.Settled now) g := settled_refl w
  revert denied
  unfold Gate.decideOpsDuration
  dsimp only
  split
  · exact fun _ => still
  · split
    · exact fun _ => still
    · rename_i t opsDuration
      have committed := Throttle.rollback_commit (w.opsDuration t opsDuration)
      split
      · split
        · rw [committed]
          exact fun _ => { still with opsDuration := opsDuration ▸ .some (Or.inr (Or.inl rfl)) }
        · intro denied
          cases denied
      · intro denied
        cases denied

private theorem decideBatch_denied (w : g.WellFormed) {count : Nat} {function : Functionality}
    (denied : (g.decideBatch count function now).result = true) :
    g.Related (fun _ => Throttle.Settled now) (g.decideBatch count function now).gate := by
  revert denied
  unfold Gate.decideBatch
  split
  · exact fun _ => settled_refl w
  · exact decideOperations_denied w

/-- A call that denies at `now` settles every throttle and records no usage. -/
theorem call_denied (w : g.WellFormed) {c : Call} (time : c.time? = some now)
    (denied : (g.call c).result.denies = true) :
    g.Related (fun _ => Throttle.Settled now) (g.call c).gate ∧ (g.call c).result.usages = [] := by
  cases c with
  | transaction config ledger txn instant =>
    cases time
    refine decideTransaction_denied w fun allowed => ?_
    have accepted :
        (Gate.decideTransaction g config ledger txn now).result.verdict.rejects = false :=
      allowed ▸ rfl
    exact Bool.false_ne_true (accepted.symm.trans denied)
  | query config ledger query payer instant =>
    cases time
    exact ⟨decideQuery_denied w denied, rfl⟩
  | opsDuration config duration instant =>
    cases time
    exact ⟨decideOpsDuration_denied w denied, rfl⟩
  | batch count function instant =>
    cases time
    exact ⟨decideBatch_denied w denied, rfl⟩
  | refundBatch | refundGas | reclaim | restore | rebuild | applyGas | applyBytes
    | applyOpsDuration | split | verbose => cases time

end Throttling
