import Throttling.Proofs.Gate.Accounting
import Throttling.Proofs.Window
import Mathlib.Tactic.Positivity

/-!
# Late reversal

A caller may reclaim what an admitted decision drew when its transaction is dropped, at any later
time. What is reclaimed is what was recorded, whether or not a part of it has leaked away meanwhile,
so a reversal may free units that others draw. Hence what decisions admitted in a window draw and
keep is not always within the capacity and what leaks over the window
(`late_reversal_can_exceed_capacity`): the units reclaimed while the window is open for decisions
from before it come on top, and nothing else does (`kept_le_capacity_and_leak`). The load of a
throttle carries the induction. A decision adds to it what it records, a reversal takes at most what
was recorded off it, and the rest is the leak.
-/

set_option autoImplicit false

namespace Throttling

/-! ## Pipelines -/

/-- An admitted decision in the journal of a caller. -/
structure Entry where
  time : Timestamp
  usages : List Usage
  /-- The time of the latest decision when the usages were reclaimed, if they have been. -/
  reversal : Option Timestamp
  deriving DecidableEq, Repr

/-- A gate, with a caller that keeps a journal of what is admitted. -/
structure Pipeline where
  gate : Gate
  /-- The time of the latest decision. -/
  clock : Timestamp
  /-- The admitted decisions, in order. -/
  journal : List Entry

namespace Pipeline

def decide (p : Pipeline) (config : Config) (ledger : LedgerView) (txn : Transaction)
    (now : Timestamp) : Pipeline :=
  let outcome := p.gate.decideTransaction config ledger txn now
  { gate := outcome.gate
    clock := now
    journal := p.journal ++
      if outcome.result.verdict = .allowed then [⟨now, outcome.result.usages, none⟩] else [] }

/-- Reclaim the usages of the entry at a position, and note when. -/
def reclaim (p : Pipeline) (index : Nat) (time : Timestamp) (usages : List Usage) : Pipeline :=
  { p with
    gate := p.gate.reclaim usages
    journal := p.journal.set index ⟨time, usages, some p.clock⟩ }

/-- Reverse an entry, unless there is none or it has been reversed before. -/
def reverse (p : Pipeline) (index : Nat) : Pipeline :=
  match p.journal[index]? with
  | some ⟨time, usages, none⟩ => p.reclaim index time usages
  | _ => p

def fresh (g : Gate) (clock : Timestamp) : Pipeline := ⟨g, clock, []⟩

/-- The pipeline is what decisions at times that do not go back, and reversals in between, have made
of a gate with an empty journal. -/
inductive From (g : Gate) : Pipeline → Prop
  | start {clock : Timestamp} (normal : clock.Normal) : From g (fresh g clock)
  | decide {p : Pipeline} (before : From g p) (config : Config) (ledger : LedgerView)
      (txn : Transaction) {now : Timestamp} (normal : now.Normal) (later : p.clock ≤ now) :
      From g (p.decide config ledger txn now)
  | reverse {p : Pipeline} (before : From g p) (index : Nat) : From g (p.reverse index)

end Pipeline

/-! ## Windows -/

namespace Entry

variable (ref : ThrottleRef) (t : Throttle) (first last : ℚ)

/-- The units of a throttle drawn by an entry of the window that has not been reversed. A window is
given by its first and its last nanosecond since the epoch. -/
def keptUnits (e : Entry) : Nat :=
  if (first ≤ e.time.toNanos ∧ e.time.toNanos ≤ last) ∧ e.reversal = none then
    Usage.unitsOn e.usages ref t
  else 0

/-- The units of a throttle drawn by an entry from before the window that is reversed while the
window is open. -/
def lateUnits (e : Entry) : Nat :=
  if e.time.toNanos < first ∧ ∃ r ∈ e.reversal, first ≤ r.toNanos ∧ r.toNanos ≤ last then
    Usage.unitsOn e.usages ref t
  else 0

end Entry

namespace Pipeline

variable (p : Pipeline) (ref : ThrottleRef) (t : Throttle) (first last : ℚ)

/-- The units that decisions admitted in a window have drawn and not given back. -/
def kept : Nat := (p.journal.map (Entry.keptUnits ref t first last)).sum

/-- The units given back in a window for decisions admitted before it. -/
def late : Nat := (p.journal.map (Entry.lateUnits ref t first last)).sum

end Pipeline

/-! ## Limits and loads of a throttle -/

structure Throttle.SameLimits (t t' : Throttle) : Prop where
  capacity : t'.bucket.capacity = t.bucket.capacity
  burstNanos : t'.bucket.burstNanos = t.bucket.burstNanos
  unitsPerAmount : t'.unitsPerAmount = t.unitsPerAmount

theorem Throttle.SameLimits.refl (t : Throttle) : t.SameLimits t := ⟨rfl, rfl, rfl⟩

theorem Throttle.SameLimits.trans {t t' t'' : Throttle} (first : t.SameLimits t')
    (second : t'.SameLimits t'') : t.SameLimits t'' where
  capacity := second.capacity.trans first.capacity
  burstNanos := second.burstNanos.trans first.burstNanos
  unitsPerAmount := second.unitsPerAmount.trans first.unitsPerAmount

theorem Usage.unitsOn_eq_of_sameLimits {t t' : Throttle} (same : t.SameLimits t')
    (usages : List Usage) (ref : ThrottleRef) : unitsOn usages ref t' = unitsOn usages ref t := by
  simp only [unitsOn, Throttle.units, same.unitsPerAmount]

variable {g : Gate} {t : Throttle} {ref : ThrottleRef} {now : Timestamp}

theorem Usage.sameLimits_claimOn (usages : List Usage) (ref : ThrottleRef) (now : Timestamp)
    (t : Throttle) : t.SameLimits (claimOn usages ref now t) := by
  unfold claimOn
  split <;> exact ⟨rfl, rfl, rfl⟩

/-- What usages claim is load on top. -/
theorem Usage.loadAt_claimOn (w : t.bucket.WellFormed) (usages : List Usage) (ref : ThrottleRef)
    (now : Timestamp) :
    (claimOn usages ref now t).bucket.loadAt now =
      t.bucket.loadAt now + unitsOn usages ref t * t.bucket.burstNanos := by
  cases named : names usages ref with
  | true =>
    rw [claimOn, named, if_pos rfl]
    exact Bucket.loadAt_claim w now _
  | false =>
    rw [claimOn_of_unnamed named, unitsOn_of_unnamed named, Nat.zero_mul, Nat.add_zero]
    rfl

/-- A settled throttle has the load that it had. -/
theorem Throttle.Settled.loadAt {t' : Throttle} (settled : t.Settled now t')
    (w : t.bucket.WellFormed) :
    t.SameLimits t' ∧ t'.bucket.loadAt now = t.bucket.loadAt now := by
  rcases settled with rfl | rfl | rfl
  · exact ⟨.refl _, rfl⟩
  · exact ⟨⟨rfl, rfl, rfl⟩, rfl⟩
  · refine ⟨⟨rfl, rfl, rfl⟩, ?_⟩
    have claimed := Bucket.loadAt_claim (Bucket.commit_wellFormed w) now 0
    rw [Nat.zero_mul, Nat.add_zero] at claimed
    exact claimed

/-! ## Decisions and reversals -/

/-- An admitted decision of a gate that is not passed through draws what it records, after the
commit that it starts with. -/
theorem decideTransaction_drew (w : g.WellFormed) (ordered : g.operations.Ordered)
    (active : g.stage ≠ .passthrough) {config : Config} {ledger : LedgerView} {txn : Transaction}
    (admitted : (g.decideTransaction config ledger txn now).result.verdict = .allowed) :
    g.commit.Drew ([.gas] ++ [.bytes] ++ [.operations]) now
      (g.decideTransaction config ledger txn now).result.usages
      (g.decideTransaction config ledger txn now).gate := by
  have committed : Gate.WellFormed { g.commit with deniedByGas := false } :=
    { commit_wellFormed w with }
  unfold Gate.decideTransaction at admitted ⊢
  rw [if_neg active] at admitted ⊢
  dsimp only at admitted ⊢
  split
  · rename_i granted
    have drew := charge_drew committed ordered granted
    exact { drew with }
  · rename_i refused
    rw [if_neg refused] at admitted
    exact absurd admitted refused

/-- A decision adds to the load of a throttle what its usages record, nothing if it is a denial. -/
theorem decideTransaction_loadAt (w : g.WellFormed) (ordered : g.operations.Ordered)
    (here : g.throttle? ref = some t) (own : t.bucket.WellFormed) (config : Config)
    (ledger : LedgerView) (txn : Transaction) (now : Timestamp) :
    ∃ t', (g.decideTransaction config ledger txn now).gate.throttle? ref = some t' ∧
      t.SameLimits t' ∧ t'.bucket.loadAt now = t.bucket.loadAt now +
        Usage.unitsOn (g.decideTransaction config ledger txn now).result.usages ref t *
          t.bucket.burstNanos := by
  by_cases admitted : (g.decideTransaction config ledger txn now).result.verdict = .allowed
  · by_cases active : g.stage = .passthrough
    · refine ⟨t, ?_, .refl t, ?_⟩
      · rw [Gate.decideTransaction, if_pos active]
        exact here
      · rw [Gate.decideTransaction, if_pos active]
        exact (congrArg (_ + ·) (Nat.zero_mul _)).symm
    · have drew := decideTransaction_drew w ordered active admitted
      generalize (g.decideTransaction config ledger txn now).result.usages = usages at drew ⊢
      have after := drew.state ref
      rw [throttle?_commit, here, Option.map_some, Option.map_some] at after
      -- the commit changes neither the limits nor the load
      split at after
      · exact ⟨_, after, Usage.sameLimits_claimOn usages ref now t,
          Usage.loadAt_claimOn own usages ref now⟩
      · have committed := Bucket.commit_wellFormed own
        exact ⟨_, after, (⟨rfl, rfl, rfl⟩ : t.SameLimits t.commit).trans
          (Usage.sameLimits_claimOn usages ref now t.commit),
          Usage.loadAt_claimOn committed usages ref now⟩
  · obtain ⟨settled, none⟩ := decideTransaction_denied w admitted
    have related := settled.throttle? ref
    rw [here] at related
    rw [none]
    generalize (g.decideTransaction config ledger txn now).gate.throttle? ref = after at related
    cases related with
    | some kept =>
      obtain ⟨limits, load⟩ := kept.loadAt own
      refine ⟨_, rfl, limits, ?_⟩
      rw [load]
      exact (congrArg (_ + ·) (Nat.zero_mul _)).symm

/-- A refund takes at most its units off the load. -/
theorem Throttle.loadAt_refund (own : t.bucket.WellFormed) (amount : Nat) (now : Timestamp) :
    t.bucket.loadAt now ≤
      (t.refund amount).bucket.loadAt now + t.units amount * t.bucket.burstNanos := by
  have load : (t.refund amount).bucket.load =
      t.bucket.load - t.units amount * t.bucket.burstNanos := Bucket.load_release own _
  have elapsed : (t.refund amount).bucket.elapsed now = t.bucket.elapsed now := rfl
  have capacity : (t.refund amount).bucket.capacity = t.bucket.capacity := rfl
  unfold Bucket.loadAt
  rw [load, elapsed, capacity]
  omega

/-- A usage counts for a gate, unless it is one of operations that was drawn from another set. -/
def Usage.CountsFor (u : Usage) (g : Gate) : Prop :=
  u.throttle.kind = .operations → u.generation = g.operations.generation

instance (u : Usage) (g : Gate) : Decidable (u.CountsFor g) :=
  inferInstanceAs (Decidable (_ = _ → _ = _))

/-- A usage that is reclaimed refunds the throttle that it names if it counts, and no other. -/
theorem throttle?_reclaimUsage (g : Gate) (usage : Usage) (ref : ThrottleRef) :
    (g.reclaimUsage usage).throttle? ref =
      if usage.throttle = ref ∧ usage.CountsFor g then
        (g.throttle? ref).map (·.refund usage.amount)
      else g.throttle? ref := by
  obtain ⟨name, amount, generation⟩ := usage
  cases name with
  | operations index =>
    by_cases current : generation = g.operations.generation
    · subst current
      have counts : Usage.CountsFor ⟨.operations index, amount, g.operations.generation⟩ g :=
        fun _ => rfl
      simp only [Gate.reclaimUsage, if_true, and_iff_left counts]
      cases ref with
      | operations index' =>
        simp only [Gate.throttle?, List.getElem?_modify, ThrottleRef.operations.injEq]
        split
        · rfl
        · exact Option.map_id'
      | gas | bytes | opsDuration => rfl
    · have stale : ¬ Usage.CountsFor ⟨.operations index, amount, generation⟩ g :=
        fun counts => current (counts rfl)
      simp only [Gate.reclaimUsage, current, if_false, stale, and_false]
  | gas | bytes | opsDuration =>
    cases ref with
    | operations | gas | bytes | opsDuration =>
      simp [Gate.reclaimUsage, Gate.throttle?, Usage.CountsFor, ThrottleRef.kind]

/-- One usage that is reclaimed takes at most what it recorded off the load of a throttle. -/
theorem reclaimUsage_loadAt (here : g.throttle? ref = some t) (own : t.bucket.WellFormed)
    (usage : Usage) (now : Timestamp) :
    ∃ t', (g.reclaimUsage usage).throttle? ref = some t' ∧ t'.bucket.WellFormed ∧
      t.SameLimits t' ∧ t.bucket.loadAt now ≤
        t'.bucket.loadAt now + Usage.unitsOn [usage] ref t * t.bucket.burstNanos := by
  rw [throttle?_reclaimUsage, here]
  split
  · rename_i counted
    have units : Usage.unitsOn [usage] ref t = t.units usage.amount := by
      simp [Usage.unitsOn, counted.1]
    refine ⟨_, rfl, Bucket.refund_wellFormed own _, ⟨rfl, rfl, rfl⟩, ?_⟩
    rw [units]
    exact Throttle.loadAt_refund own usage.amount now
  · exact ⟨t, rfl, own, .refl t, Nat.le_add_right _ _⟩

/-- Usages that are reclaimed take at most what they recorded off the load of a throttle. -/
theorem reclaim_loadAt (here : g.throttle? ref = some t) (own : t.bucket.WellFormed)
    (usages : List Usage) (now : Timestamp) :
    ∃ t', (g.reclaim usages).throttle? ref = some t' ∧ t.SameLimits t' ∧
      t.bucket.loadAt now ≤
        t'.bucket.loadAt now + Usage.unitsOn usages ref t * t.bucket.burstNanos := by
  induction usages generalizing g t with
  | nil => exact ⟨t, here, .refl t, Nat.le_add_right _ _⟩
  | cons u us ih =>
    obtain ⟨between, there, wellFormed, limits, first⟩ := reclaimUsage_loadAt here own u now
    obtain ⟨t', after, limits', rest⟩ := ih there wellFormed
    refine ⟨t', after, limits.trans limits', ?_⟩
    rw [Usage.unitsOn_eq_of_sameLimits limits, limits.burstNanos] at rest
    have split : Usage.unitsOn ([u] ++ us) ref t =
        Usage.unitsOn [u] ref t + Usage.unitsOn us ref t := Usage.unitsOn_append
    rw [← List.singleton_append, split, Nat.add_mul]
    omega

/-! ## What a window keeps -/

/-- An element of a list replaced by another changes a sum by the difference of the two. -/
private theorem sum_map_set {α : Type} (f : α → Nat) {xs : List α} {i : Nat} {x : α}
    (here : xs[i]? = some x) (y : α) :
    ((xs.set i y).map f).sum + f x = (xs.map f).sum + f y := by
  induction xs generalizing i with
  | nil => cases here
  | cons z zs ih =>
    cases i with
    | zero =>
      cases here
      simp only [List.set_cons_zero, List.map_cons, List.sum_cons]
      omega
    | succ i =>
      have rest := ih here
      simp only [List.set_cons_succ, List.map_cons, List.sum_cons]
      omega

namespace Pipeline

variable {p : Pipeline} {first last : ℚ}

/-- Before the window nothing is kept in it. -/
theorem kept_eq_zero (past : ∀ e ∈ p.journal, e.time.toNanos ≤ p.clock.toNanos)
    (early : (p.clock.toNanos : ℚ) < first) (ref : ThrottleRef) (t : Throttle) (last : ℚ) :
    p.kept ref t first last = 0 := by
  refine List.sum_eq_zero (List.forall_mem_map.mpr fun e member => if_neg ?_)
  rintro ⟨⟨inside, -⟩, -⟩
  have before : (e.time.toNanos : ℚ) ≤ p.clock.toNanos := Int.cast_le.mpr (past e member)
  linarith

/-- A decision in the window adds what it records to what is kept. -/
theorem kept_decide (w : p.gate.WellFormed) (config : Config) (ledger : LedgerView)
    (txn : Transaction) (now : Timestamp) :
    (p.decide config ledger txn now).kept ref t first last = p.kept ref t first last +
      if first ≤ (now.toNanos : ℚ) ∧ (now.toNanos : ℚ) ≤ last then
        Usage.unitsOn (p.gate.decideTransaction config ledger txn now).result.usages ref t
      else 0 := by
  unfold kept decide
  dsimp only
  rw [List.map_append, List.sum_append]
  congr 1
  split
  · simp [Entry.keptUnits]
  · rename_i denied
    rw [(decideTransaction_denied w denied).2]
    simp [Usage.unitsOn]

theorem late_decide (config : Config) (ledger : LedgerView) (txn : Transaction) (now : Timestamp) :
    (p.decide config ledger txn now).late ref t first last = p.late ref t first last := by
  unfold late decide
  dsimp only
  rw [List.map_append, List.sum_append]
  split <;> simp [Entry.lateUnits]

/-- What holds along a run of a throttle and a window: while the window is open, what is kept in it
makes at most the load, what has leaked since it opened, and what came late. -/
structure Limited (p : Pipeline) (ref : ThrottleRef) (t₀ : Throttle) (first last : ℚ) : Prop where
  reached : p.gate.Reached Call.Normal
  clock : p.clock.Normal
  past : ∀ e ∈ p.journal, e.time.toNanos ≤ p.clock.toNanos
  opened : ∃ t, p.gate.throttle? ref = some t ∧ t₀.SameLimits t ∧
    (first ≤ p.clock.toNanos → (p.clock.toNanos : ℚ) ≤ last →
      (p.kept ref t₀ first last * t₀.bucket.burstNanos : ℚ) ≤
        t.bucket.loadAt p.clock + t₀.bucket.capacity * (p.clock.toNanos - first) +
          p.late ref t₀ first last * t₀.bucket.burstNanos)
  closed : last < p.clock.toNanos →
    (p.kept ref t₀ first last * t₀.bucket.burstNanos : ℚ) ≤
      t₀.bucket.capacity * t₀.bucket.burstNanos + t₀.bucket.capacity * (last - first) +
        p.late ref t₀ first last * t₀.bucket.burstNanos

variable {t₀ : Throttle}

/-- The load is within the capacity. -/
private theorem loadAt_le_capacity (reached : p.gate.Reached Call.Normal)
    (here : p.gate.throttle? ref = some t) (limits : t₀.SameLimits t) (time : Timestamp) :
    (t.bucket.loadAt time : ℚ) ≤ t₀.bucket.capacity * t₀.bucket.burstNanos := by
  have own : t.bucket.WellFormed := reached.wellFormed.throttle? here
  have full := Nat.le_trans (t.bucket.loadAt_le_load time) (Bucket.load_le own)
  rw [limits.capacity, limits.burstNanos] at full
  exact_mod_cast full

/-- What is kept is within the capacity, the leak over the window, and what came late. -/
theorem Limited.limit (limited : p.Limited ref t₀ first last) (ordered : first ≤ last) :
    (p.kept ref t₀ first last * t₀.bucket.burstNanos : ℚ) ≤
      t₀.bucket.capacity * t₀.bucket.burstNanos + t₀.bucket.capacity * (last - first) +
        p.late ref t₀ first last * t₀.bucket.burstNanos := by
  by_cases early : (p.clock.toNanos : ℚ) < first
  · rw [kept_eq_zero limited.past early, Nat.cast_zero, zero_mul]
    have := sub_nonneg.mpr ordered
    positivity
  by_cases ended : last < p.clock.toNanos
  · exact limited.closed ended
  · obtain ⟨t, here, limits, bound⟩ := limited.opened
    have within := bound (not_lt.mp early) (not_lt.mp ended)
    have load := loadAt_le_capacity limited.reached here limits p.clock
    have leaked : (t₀.bucket.capacity : ℚ) * (p.clock.toNanos - first) ≤
        t₀.bucket.capacity * (last - first) :=
      mul_le_mul_of_nonneg_left (by linarith) (Nat.cast_nonneg _)
    linarith

/-- Up to a later instant of the window the load leaks, whether or not the window was open
before. -/
theorem Limited.upTo (limited : p.Limited ref t₀ first last) {now : Timestamp}
    (normal : now.Normal) (later : p.clock ≤ now) (inside : first ≤ now.toNanos)
    (before : (now.toNanos : ℚ) ≤ last) :
    ∃ t, p.gate.throttle? ref = some t ∧ t₀.SameLimits t ∧
      (p.kept ref t₀ first last * t₀.bucket.burstNanos : ℚ) ≤
        t.bucket.loadAt now + t₀.bucket.capacity * (now.toNanos - first) +
          p.late ref t₀ first last * t₀.bucket.burstNanos := by
  obtain ⟨t, here, limits, bound⟩ := limited.opened
  refine ⟨t, here, limits, ?_⟩
  by_cases early : (p.clock.toNanos : ℚ) < first
  · rw [kept_eq_zero limited.past early, Nat.cast_zero, zero_mul]
    have := sub_nonneg.mpr inside
    positivity
  · have order : (p.clock.toNanos : ℚ) ≤ now.toNanos :=
      Int.cast_le.mpr ((Timestamp.le_iff_toNanos_le limited.clock normal).mp later)
    have within := bound (not_lt.mp early) (order.trans before)
    have times : t.bucket.NormalTime := (limited.reached.timed.throttle? here).normal
    have leak : (t.bucket.loadAt p.clock : ℚ) ≤
        t.bucket.loadAt now + (now.toNanos - p.clock.toNanos) * t₀.bucket.capacity := by
      have step := Bucket.loadAt_le_add times limited.clock normal later
      rw [limits.capacity] at step
      rw [← ThrottleSet.cast_nanosSince limited.clock normal later]
      exact_mod_cast step
    linarith

/-- A decision keeps the limit. -/
theorem Limited.decide (limited : p.Limited ref t₀ first last) (ordered : first ≤ last)
    {now : Timestamp} (normal : now.Normal) (later : p.clock ≤ now) (config : Config)
    (ledger : LedgerView) (txn : Transaction) :
    (p.decide config ledger txn now).Limited ref t₀ first last where
  reached := limited.reached.call (c := .transaction config ledger txn now)
    ⟨fun t member => by cases member; exact normal, fun s member => by cases member⟩
  clock := normal
  past := by
    have order := (Timestamp.le_iff_toNanos_le limited.clock normal).mp later
    intro e member
    rcases List.mem_append.mp member with old | new
    · exact (limited.past e old).trans order
    · split at new
      · rw [List.mem_singleton.mp new]
        exact le_refl _
      · cases new
  opened := by
    obtain ⟨t, here, limits, -⟩ := limited.opened
    have own : t.bucket.WellFormed := limited.reached.wellFormed.throttle? here
    obtain ⟨t', after, limits', load⟩ := decideTransaction_loadAt limited.reached.wellFormed
      limited.reached.ordered here own config ledger txn now
    refine ⟨t', after, limits.trans limits', fun inside before => ?_⟩
    obtain ⟨s, there, -, bound⟩ := limited.upTo normal later inside before
    obtain rfl := Option.some.inj (here.symm.trans there)
    rw [kept_decide limited.reached.wellFormed, late_decide, if_pos ⟨inside, before⟩]
    rw [Usage.unitsOn_eq_of_sameLimits limits, limits.burstNanos] at load
    have raised : (t'.bucket.loadAt now : ℚ) = t.bucket.loadAt now +
        Usage.unitsOn (p.gate.decideTransaction config ledger txn now).result.usages ref t₀ *
          t₀.bucket.burstNanos := by exact_mod_cast load
    change _ ≤ (t'.bucket.loadAt now : ℚ) + t₀.bucket.capacity * (now.toNanos - first) + _
    rw [raised, Nat.cast_add, add_mul]
    linarith
  closed := by
    intro ended
    have outside : ¬ (first ≤ (now.toNanos : ℚ) ∧ (now.toNanos : ℚ) ≤ last) :=
      fun inside => absurd ended (not_lt.mpr inside.2)
    rw [kept_decide limited.reached.wellFormed, late_decide, if_neg outside, Nat.add_zero]
    exact limited.limit ordered

/-- What a reversal while the window is open no longer keeps or makes come late is what the entry
recorded. -/
theorem keptUnits_add_lateUnits (ref : ThrottleRef) (t : Throttle) {time clock : Timestamp}
    (usages : List Usage) (past : time.toNanos ≤ clock.toNanos) (inside : first ≤ clock.toNanos)
    (before : (clock.toNanos : ℚ) ≤ last) :
    Entry.keptUnits ref t first last ⟨time, usages, none⟩ +
        Entry.lateUnits ref t first last ⟨time, usages, some clock⟩ =
      Usage.unitsOn usages ref t := by
  have order : (time.toNanos : ℚ) ≤ clock.toNanos := Int.cast_le.mpr past
  by_cases early : (time.toNanos : ℚ) < first
  · have late : (time.toNanos : ℚ) < first ∧
        ∃ r ∈ some clock, first ≤ (r.toNanos : ℚ) ∧ (r.toNanos : ℚ) ≤ last :=
      ⟨early, clock, rfl, inside, before⟩
    have outside : ¬ ((first ≤ (time.toNanos : ℚ) ∧ (time.toNanos : ℚ) ≤ last) ∧
        (none : Option Timestamp) = none) := fun kept => not_lt.mpr kept.1.1 early
    rw [Entry.keptUnits, Entry.lateUnits, if_pos late, if_neg outside, Nat.zero_add]
  · have kept : (first ≤ (time.toNanos : ℚ) ∧ (time.toNanos : ℚ) ≤ last) ∧
        (none : Option Timestamp) = none := ⟨⟨not_lt.mp early, order.trans before⟩, rfl⟩
    have outside : ¬ ((time.toNanos : ℚ) < first ∧
        ∃ r ∈ some clock, first ≤ (r.toNanos : ℚ) ∧ (r.toNanos : ℚ) ≤ last) :=
      fun late => early late.1
    rw [Entry.keptUnits, Entry.lateUnits, if_pos kept, if_neg outside, Nat.add_zero]

/-- A reversal takes its entry out of what is kept, and into what came late if it is from before the
window. -/
theorem kept_late_reclaim (ref : ThrottleRef) (t : Throttle) (first last : ℚ) {index : Nat}
    {time : Timestamp} {usages : List Usage}
    (entry : p.journal[index]? = some ⟨time, usages, none⟩) :
    (p.reclaim index time usages).kept ref t first last +
        Entry.keptUnits ref t first last ⟨time, usages, none⟩ = p.kept ref t first last ∧
      (p.reclaim index time usages).late ref t first last = p.late ref t first last +
        Entry.lateUnits ref t first last ⟨time, usages, some p.clock⟩ := by
  constructor
  · have given : Entry.keptUnits ref t first last ⟨time, usages, some p.clock⟩ = 0 :=
      if_neg fun kept => Option.some_ne_none _ kept.2
    have moved := sum_map_set (Entry.keptUnits ref t first last) entry ⟨time, usages, some p.clock⟩
    rw [given, Nat.add_zero] at moved
    exact moved
  · have nothing : Entry.lateUnits ref t first last ⟨time, usages, none⟩ = 0 := by
      refine if_neg ?_
      rintro ⟨-, r, reversal, -⟩
      cases reversal
    have moved := sum_map_set (Entry.lateUnits ref t first last) entry ⟨time, usages, some p.clock⟩
    rw [nothing, Nat.add_zero] at moved
    exact moved

/-- Reclaiming keeps the limit: what it takes off the load is no longer kept, or came late. -/
theorem Limited.reclaim (limited : p.Limited ref t₀ first last) {index : Nat} {time : Timestamp}
    {usages : List Usage} (entry : p.journal[index]? = some ⟨time, usages, none⟩) :
    (p.reclaim index time usages).Limited ref t₀ first last := by
  have past : time.toNanos ≤ p.clock.toNanos := limited.past _ (List.mem_of_getElem? entry)
  obtain ⟨kept, late⟩ := kept_late_reclaim ref t₀ first last entry
  refine ⟨?_, limited.clock, ?_, ?_, ?_⟩
  · exact limited.reached.call (c := .reclaim usages)
      ⟨fun t member => (by cases member), fun s member => (by cases member)⟩
  · intro e member
    rcases List.mem_or_eq_of_mem_set member with old | rfl
    · exact limited.past e old
    · exact past
  · obtain ⟨t, here, limits, bound⟩ := limited.opened
    have own : t.bucket.WellFormed := limited.reached.wellFormed.throttle? here
    obtain ⟨t', after, limits', lowered⟩ := reclaim_loadAt here own usages p.clock
    refine ⟨t', after, limits.trans limits', fun inside before => ?_⟩
    have within := bound inside before
    have recorded := keptUnits_add_lateUnits ref t₀ usages past inside before
    rw [Usage.unitsOn_eq_of_sameLimits limits, limits.burstNanos, ← recorded] at lowered
    have taken : (t.bucket.loadAt p.clock : ℚ) ≤ t'.bucket.loadAt p.clock +
        (Entry.keptUnits ref t₀ first last ⟨time, usages, none⟩ +
          Entry.lateUnits ref t₀ first last ⟨time, usages, some p.clock⟩) *
            t₀.bucket.burstNanos := by exact_mod_cast lowered
    rw [← kept, Nat.cast_add, add_mul] at within
    rw [late, Nat.cast_add, add_mul]
    change _ ≤ (t'.bucket.loadAt p.clock : ℚ) + t₀.bucket.capacity * (p.clock.toNanos - first) + _
    linarith
  · intro ended
    have within := limited.closed ended
    have fewer : ((p.reclaim index time usages).kept ref t₀ first last : ℚ) *
        t₀.bucket.burstNanos ≤ p.kept ref t₀ first last * t₀.bucket.burstNanos := by
      exact_mod_cast Nat.mul_le_mul_right _ (Nat.le.intro kept)
    have more : (p.late ref t₀ first last : ℚ) * t₀.bucket.burstNanos ≤
        (p.reclaim index time usages).late ref t₀ first last * t₀.bucket.burstNanos := by
      exact_mod_cast Nat.mul_le_mul_right _ (Nat.le.intro late.symm)
    linarith

/-- A reversal keeps the limit. -/
theorem Limited.reverse (limited : p.Limited ref t₀ first last) (index : Nat) :
    (p.reverse index).Limited ref t₀ first last := by
  unfold Pipeline.reverse
  split
  · rename_i time usages entry
    exact limited.reclaim entry
  · exact limited

/-- The limit holds along every run. -/
theorem From.limited (run : From g p) (reached : g.Reached Call.Normal)
    (here : g.throttle? ref = some t) (ordered : first ≤ last) : p.Limited ref t first last := by
  induction run with
  | start normal =>
    have nothing (clock : Timestamp) : (fresh g clock).kept ref t first last = 0 := rfl
    refine ⟨reached, normal, List.forall_mem_nil _, ⟨t, here, .refl t, fun inside _ => ?_⟩,
      fun _ => ?_⟩
    · rw [nothing, Nat.cast_zero, zero_mul]
      have := sub_nonneg.mpr inside
      positivity
    · rw [nothing, Nat.cast_zero, zero_mul]
      have := sub_nonneg.mpr ordered
      positivity
  | decide before config ledger txn normal later ih =>
    exact ih.decide ordered normal later config ledger txn
  | reverse before index ih => exact ih.reverse index

/-- Along every run of decisions and reversals, the units that decisions admitted in a window draw
from a throttle and keep are at most its capacity, what leaks over the window, and the units that
are reclaimed while the window is open for decisions admitted before it. -/
theorem kept_le_capacity_and_leak (reached : g.Reached Call.Normal) (run : From g p)
    (here : g.throttle? ref = some t) (ordered : first ≤ last) :
    (p.kept ref t first last : ℚ) ≤
      t.bucket.capacity + t.bucket.capacity * (last - first) / t.bucket.burstNanos +
        p.late ref t first last := by
  have own : t.bucket.WellFormed := reached.wellFormed.throttle? here
  have positive : (0 : ℚ) < t.bucket.burstNanos := Nat.cast_pos.mpr own.burst_pos
  have limit := (run.limited reached here ordered).limit ordered
  refine le_of_mul_le_mul_right ?_ positive
  rw [add_mul, add_mul, div_mul_cancel₀ _ positive.ne']
  exact limit

/-- Of ten units of gas five have leaked when they are reclaimed. Decisions around the reversal keep
twenty within half a second: ten for the capacity, five that leak, and five of those that come
late. -/
theorem kept_le_capacity_and_leak_after_reversal :
    let config : Config := { contracts := { maxGasPerSecAtConsensus := 10 } }
    let call (gas : Nat) : Transaction := .ofBody (.ofNumber 5000) ⟨none, .contractCall gas⟩ 200
    let g := (Gate.new .consensus).run
      [.rebuild ⟨[⟨"calls", 1, 0, [⟨10, 0, [.contractCall]⟩]⟩]⟩, .applyGas config]
    let next (p : Pipeline) (gas : Nat) (now : Timestamp) : Pipeline :=
      p.decide config Ledger.empty.view (call gas) now
    let half := next (next (fresh g ⟨100, 0⟩) 10 ⟨100, 0⟩) 5 ⟨100, 500000000⟩
    let p := next (next (half.reverse 0) 10 ⟨100, 500000000⟩) 5 ⟨101, 0⟩
    let t := Throttle.perSecond .gas 10 1
    g.Reached Call.Normal ∧ From g p ∧ g.throttle? .gas = some t ∧
      p.kept .gas t 100500000000 101000000000 = 20 ∧
      p.late .gas t 100500000000 101000000000 = 10 ∧
      (p.kept .gas t 100500000000 101000000000 : ℚ) ≤ t.bucket.capacity +
        t.bucket.capacity * (101000000000 - 100500000000) / t.bucket.burstNanos +
          p.late .gas t 100500000000 101000000000 := by
  intro config call g next half p t
  have reached : g.Reached Call.Normal := ⟨.consensus, _, by decide +kernel, rfl⟩
  have gas : g.throttle? .gas = some t := by decide +kernel
  have begun : From g (next (fresh g ⟨100, 0⟩) 10 ⟨100, 0⟩) :=
    .decide (.start (by decide)) config _ (call 10) (by decide) (by decide)
  have reversed : From g (half.reverse 0) :=
    .reverse (.decide begun config _ (call 5) (by decide) (by decide)) 0
  have run : From g p :=
    .decide (.decide reversed config _ (call 10) (by decide) (by decide)) config _ (call 5)
      (by decide) (by decide)
  exact ⟨reached, run, gas, by decide +kernel, by decide +kernel,
    kept_le_capacity_and_leak reached run gas (by norm_num)⟩

/-- What is reclaimed for an earlier decision may have leaked away before, so decisions in a window
may keep more than the capacity and what leaks over the window: here fifteen units within a tenth of
a second, of a throttle that holds ten and leaks one. -/
theorem late_reversal_can_exceed_capacity :
    ¬ ∀ {g : Gate} {p : Pipeline}, g.Reached Call.Normal → From g p →
      ∀ (ref : ThrottleRef) (t : Throttle) (first last : ℚ), g.throttle? ref = some t →
        first ≤ last → (p.kept ref t first last : ℚ) ≤
          t.bucket.capacity + t.bucket.capacity * (last - first) / t.bucket.burstNanos := by
  intro bounded
  let config : Config := { contracts := { maxGasPerSecAtConsensus := 10 } }
  let call (gas : Nat) : Transaction := .ofBody (.ofNumber 5000) ⟨none, .contractCall gas⟩ 200
  let g := (Gate.new .consensus).run
    [.rebuild ⟨[⟨"calls", 1, 0, [⟨10, 0, [.contractCall]⟩]⟩]⟩, .applyGas config]
  let next (p : Pipeline) (gas : Nat) (now : Timestamp) : Pipeline :=
    p.decide config Ledger.empty.view (call gas) now
  let half := next (next (fresh g ⟨100, 0⟩) 10 ⟨100, 0⟩) 5 ⟨100, 500000000⟩
  let p := next (half.reverse 0) 10 ⟨100, 500000000⟩
  let t := Throttle.perSecond .gas 10 1
  have reached : g.Reached Call.Normal := ⟨.consensus, _, by decide +kernel, rfl⟩
  have begun : From g (next (fresh g ⟨100, 0⟩) 10 ⟨100, 0⟩) :=
    .decide (.start (by decide)) config _ (call 10) (by decide) (by decide)
  have reversed : From g (half.reverse 0) :=
    .reverse (.decide begun config _ (call 5) (by decide) (by decide)) 0
  have run : From g p := .decide reversed config _ (call 10) (by decide) (by decide)
  have within := bounded reached run .gas t 100500000000 100600000000 (by decide +kernel)
    (by norm_num)
  have kept : p.kept .gas t 100500000000 100600000000 = 15 := by decide +kernel
  have capacity : t.bucket.capacity = 10 := by decide +kernel
  have burst : t.bucket.burstNanos = 1000000000 := by decide +kernel
  rw [kept, capacity, burst] at within
  norm_num at within

end Pipeline

end Throttling
