import Throttling.Proofs.Bucket.Rollback
import Throttling.Proofs.Gate.Erasure
import Throttling.Proofs.Snapshot

/-!
# Draws on a tariff are all or nothing

A tariff is drawn requirement by requirement, and the requirements may name a throttle more than
once, or one that is not there. The order of them is not seen in the outcome: a draw is granted
exactly if each throttle has room for all that the tariff asks of it (`draw_granted_iff_all_fit`). A
draw that fails half way revokes what it has drawn (`drawAll_denied_eq`), which leaves throttles as
they were or leaked up to its instant, with what was provisional before still on record. Neither the
units free at any later time nor those free after a rollback tell the difference, unless a throttle
holds units without a decision time (`denied_draw_unseen_iff`).
-/

set_option autoImplicit false

namespace Throttling

/-! ## Throttles reached by operations -/

namespace Throttle

/-- Made by a constructor, and then put through operations of its bucket that are all allowed. -/
def Reached (allowed : Bucket.Op → Prop) (t : Throttle) : Prop :=
  ∃ start ops, Built start ∧ (∀ op ∈ ops, allowed op) ∧
    t = { start with bucket := start.bucket.run ops }

variable {t t' : Throttle} {now : Timestamp}

theorem Built.reached (built : t.Built) {allowed : Bucket.Op → Prop} {ops : List Bucket.Op}
    (each : ∀ op ∈ ops, allowed op) : Reached allowed { t with bucket := t.bucket.run ops } :=
  ⟨t, ops, built, each, rfl⟩

theorem Reached.wellFormed {allowed : Bucket.Op → Prop} (reached : t.Reached allowed) :
    t.bucket.WellFormed := by
  obtain ⟨start, ops, built, -, rfl⟩ := reached
  obtain ⟨_, _, -, w⟩ := built.fresh
  exact Bucket.run_wellFormed w ops

theorem Reached.normalTime (reached : t.Reached Bucket.Op.Normal) : t.NormalTime := by
  refine ⟨reached.wellFormed, ?_⟩
  obtain ⟨start, ops, built, normal, rfl⟩ := reached
  obtain ⟨_, _, new, w⟩ := built.fresh
  exact Bucket.run_normalTime w (Bucket.normalTime_of_untimed (by rw [new]; rfl)) normal

/-! ## Throttles after a draw that failed -/

/-- The throttle as it was, or leaked up to `now`. -/
def Leaked (now : Timestamp) (t t' : Throttle) : Prop := t' = t ∨ t' = t.claim now 0

/-- At every time from `now` on the same units are free on both, and the same units would be if both
were rolled back. -/
def SameFree (now : Timestamp) (t t' : Throttle) : Prop :=
  ∀ later, now ≤ later → t'.free later = t.free later ∧
    t'.rollback.free later = t.rollback.free later

theorem rollback_claim_zero (w : t.bucket.WellFormed) (now : Timestamp) :
    (t.claim now 0).rollback = t.rollback.claim now 0 :=
  congrArg (fun bucket => { t with bucket }) (Bucket.rollback_claim_eq w (Nat.zero_le _))

theorem sameFree_claim_zero (own : t.NormalTime) (normal : now.Normal) (timed : t.bucket.Timed) :
    t.SameFree now (t.claim now 0) := by
  have rolled : t.bucket.rollback.Timed := fun untimed => by
    simp [Bucket.rollback, Bucket.release, timed untimed]
  refine fun later after => ⟨?_, ?_⟩
  · exact Bucket.free_claim_zero own.wellFormed own.normal normal timed after
  · rw [rollback_claim_zero own.wellFormed]
    have wellFormed := Bucket.rollback_wellFormed own.wellFormed
    exact Bucket.free_claim_zero wellFormed own.normal normal rolled after

/-- It does not matter which of two amounts is revoked first. -/
theorem revoke_comm (t : Throttle) (amount more : Nat) :
    (t.revoke amount).revoke more = (t.revoke more).revoke amount := by
  have buckets : (t.bucket.revoke (t.units amount)).revoke (t.units more) =
      (t.bucket.revoke (t.units more)).revoke (t.units amount) := by
    rw [Bucket.revoke_revoke, Bucket.revoke_revoke, Nat.add_comm]
  exact congrArg (fun bucket => { t with bucket }) buckets

/-- A leak does not show, unless it has started the clock of a throttle that holds units. -/
theorem Leaked.sameFree_iff (leaked : t.Leaked now t') (own : t.NormalTime)
    (normal : now.Normal) : t.SameFree now t' ↔ t.KeepsClock t' := by
  rcases leaked with rfl | rfl
  · exact ⟨fun _ untimed _ => untimed, fun _ _ _ => ⟨rfl, rfl⟩⟩
  constructor
  · intro same untimed inUse
    obtain ⟨later, -, after, differ⟩ :=
      Bucket.exists_free_claim_zero_ne own.wellFormed normal untimed inUse
    exact absurd (same later after).1 differ
  · intro keeps
    refine sameFree_claim_zero own normal fun untimed => ?_
    by_contra inUse
    cases keeps untimed inUse

/-- Throttles that hold no units without a decision time have no clock to start. -/
theorem keepsClock_of_timed {ts ts' : List Throttle} (length : ts.length = ts'.length)
    (timed : ∀ t ∈ ts, t.bucket.Timed) : List.Forall₂ KeepsClock ts ts' := by
  refine List.forall₂_iff_get.mpr ⟨length, fun position before after untimed inUse => ?_⟩
  exact absurd (timed _ (List.get_mem ts ⟨position, before⟩) untimed) inUse

end Throttle

/-! ## Portions in any order -/

namespace Portion

variable {now : Timestamp} {ps qs : List Portion} {ts : List Throttle}

theorem names_perm (same : ps.Perm qs) (position : Nat) :
    names ps position = names qs position := by
  rw [Bool.eq_iff_iff]
  simp [names, same.mem_iff]

theorem unitsOn_perm (same : ps.Perm qs) (position : Nat) (t : Throttle) :
    unitsOn ps position t = unitsOn qs position t := ((same.filter _).map _).sum_eq

theorem fit_perm (same : ps.Perm qs) : Fit ps ts now ↔ Fit qs ts now := by
  simp only [Fit, same.mem_iff, unitsOn_perm same]

/-- Portions are granted or denied in any order alike, and when they are granted the throttles are
left alike. -/
theorem drawAll_perm (w : AllWellFormed ts) (same : ps.Perm qs) :
    (drawAll now ps ts).1 = (drawAll now qs ts).1 ∧
      ((drawAll now ps ts).1 = true → (drawAll now ps ts).2 = (drawAll now qs ts).2) := by
  have verdict : (drawAll now ps ts).1 = (drawAll now qs ts).1 := by
    rw [Bool.eq_iff_iff, drawAll_granted_iff w, drawAll_granted_iff w, fit_perm same]
  refine ⟨verdict, fun granted => List.ext_getElem? fun position => ?_⟩
  cases found : ts[position]? with
  | none =>
    have beyond := List.getElem?_eq_none_iff.mp found
    rw [List.getElem?_eq_none, List.getElem?_eq_none] <;> rwa [length_drawAll w]
  | some t =>
    rw [getElem?_drawAll_granted w granted found,
      getElem?_drawAll_granted w (verdict ▸ granted) found, names_perm same, unitsOn_perm same]

theorem revoke_comm (p q : Portion) (ts : List Throttle) :
    q.revoke (p.revoke ts) = p.revoke (q.revoke ts) := by
  unfold revoke
  by_cases same : p.throttle = q.throttle
  · rw [same, List.modify_modify_eq, List.modify_modify_eq]
    exact congrArg _ (funext fun t => t.revoke_comm p.amount q.amount)
  · exact List.modify_modify_ne _ _ _ same

/-- Portions that were drawn can be revoked in any order. -/
theorem foldl_revoke_perm (same : ps.Perm qs) (ts : List Throttle) :
    ps.foldl (fun ts p => p.revoke ts) ts = qs.foldl (fun ts p => p.revoke ts) ts :=
  same.foldl_eq' (fun p _ q _ ts => revoke_comm p q ts) ts

/-- A draw that is denied has drawn the portions before the denied one, and revoked them. The order in
which it did that does not matter. -/
theorem drawAll_denied_eq (denied : (drawAll now ps ts).1 = false) :
    ∃ before p after drawn, ps = before ++ p :: after ∧
      before.foldlM (fun ts p => p.draw? ts now) ts = some drawn ∧ p.draw? drawn now = none ∧
      ∀ order : List Portion, order.Perm before →
        (drawAll now ps ts).2 = order.foldl (fun ts p => p.revoke ts) drawn := by
  induction ps generalizing ts with
  | nil => cases denied
  | cons p ps ih =>
    cases first : p.draw? ts now with
    | none =>
      refine ⟨[], p, ps, ts, rfl, rfl, first, fun order same => ?_⟩
      rw [drawAll_cons_of_none first, same.eq_nil]
      rfl
    | some drawn =>
      rw [drawAll_cons first] at denied
      obtain ⟨before, q, after, last, rfl, granted, refused, revoked⟩ := ih denied
      refine ⟨p :: before, q, after, last, rfl, ?_, refused, fun order same => ?_⟩
      · rw [List.foldlM_cons, first]
        exact granted
      · -- the first portion is the last one that is revoked
        have latest : order.Perm (before ++ [p]) :=
          same.trans (List.perm_append_singleton p before).symm
        rw [drawAll_cons first, if_neg (Bool.eq_false_iff.mp denied), revoked before (.refl _),
          foldl_revoke_perm latest, List.foldl_append]
        rfl

/-- Portions of which one is denied leave every throttle as it was, or leaked. -/
theorem drawAll_leaked (w : AllWellFormed ts) (denied : (drawAll now ps ts).1 = false) :
    List.Forall₂ (Throttle.Leaked now) ts (drawAll now ps ts).2 := by
  refine List.forall₂_iff_get.mpr ⟨(length_drawAll w).symm, fun position before after => ?_⟩
  obtain ⟨t', there, outcome⟩ :=
    getElem?_drawAll_denied w denied (List.getElem?_eq_getElem before)
  rw [List.getElem?_eq_getElem after] at there
  cases there
  exact outcome

end Portion

/-! ## Draws on a tariff -/

namespace Tariff

/-- The bucket units that a quantity costs, scaled, on the throttle `t` at a position. -/
def costAt (tariff : Tariff) (quantity : Nat) (scale : ScaleFactor) (position : Nat)
    (t : Throttle) : Nat :=
  ((tariff.requirements.filter fun r => r.throttle = position).map fun r =>
    t.units (amount r.milliOps quantity scale)).sum

theorem unitsOn_portions (tariff : Tariff) (quantity : Nat) (scale : ScaleFactor) (position : Nat)
    (t : Throttle) :
    Portion.unitsOn (tariff.portions quantity scale) position t =
      tariff.costAt quantity scale position t := by
  simp [Portion.unitsOn, portions, costAt, List.filter_map, Function.comp_def]

theorem fit_portions_iff (tariff : Tariff) (throttles : List Throttle) (now : Timestamp)
    (quantity : Nat) (scale : ScaleFactor) :
    Portion.Fit (tariff.portions quantity scale) throttles now ↔
      ∀ r ∈ tariff.requirements, ∃ t, throttles[r.throttle]? = some t ∧ t.capacity ≠ 0 ∧
        tariff.costAt quantity scale r.throttle t ≤ t.free now := by
  simp only [Portion.Fit, unitsOn_portions]
  simp [portions]

variable {throttles : List Throttle}

/-- On throttles that any operations lead to, a draw is granted exactly if every requirement names a
throttle that is there, has capacity, and has free at the instant all that the requirements naming
it cost together. In another order the requirements give the same verdict, and where that is a grant
they leave every throttle the same. -/
theorem draw_granted_iff_all_fit {allowed : Bucket.Op → Prop}
    (reached : ∀ t ∈ throttles, t.Reached allowed) (tariff : Tariff) (now : Timestamp)
    (quantity : Nat) (scale : ScaleFactor) :
    ((tariff.draw throttles now quantity scale).granted = true ↔
      ∀ r ∈ tariff.requirements, ∃ t, throttles[r.throttle]? = some t ∧ t.capacity ≠ 0 ∧
        tariff.costAt quantity scale r.throttle t ≤ t.free now) ∧
    ∀ other : Tariff, tariff.requirements.Perm other.requirements →
      (tariff.draw throttles now quantity scale).granted =
          (other.draw throttles now quantity scale).granted ∧
        ((tariff.draw throttles now quantity scale).granted = true →
          (tariff.draw throttles now quantity scale).throttles =
            (other.draw throttles now quantity scale).throttles) := by
  have w : Portion.AllWellFormed throttles := fun t member => (reached t member).wellFormed
  simp only [draw_eq]
  refine ⟨?_, fun other same => ?_⟩
  · rw [Portion.drawAll_granted_iff w, fit_portions_iff]
  · exact Portion.drawAll_perm w (same.map _)

/-- The first throttle is named twice, and has room for both parts together but not for more. Drawn
the other way round the requirements leave the two throttles the same. -/
theorem draw_granted_iff_all_fit_named_twice :
    let limits : Throttle := ⟨"limits", .operations, 10000, 1000000000, 1000,
      .new 10000000 1000000000⟩
    let creations : Throttle := ⟨"creations", .operations, 2000, 1000000000, 1000,
      .new 2000000 1000000000⟩
    let throttles : List Throttle :=
      [{ limits with bucket := limits.bucket.run [.draw ⟨100, 0⟩ 7500000] }, creations]
    let tariff : Tariff := ⟨.cryptoCreate, [⟨0, 1000⟩, ⟨1, 1000⟩, ⟨0, 500⟩], 7⟩
    let other : Tariff := ⟨.cryptoCreate, [⟨0, 500⟩, ⟨1, 1000⟩, ⟨0, 1000⟩], 7⟩
    (∀ t ∈ throttles, t.Reached fun _ => True) ∧
      (tariff.draw throttles ⟨100, 50000000⟩ 2 .one).granted = true ∧
      (other.draw throttles ⟨100, 50000000⟩ 2 .one).granted = true ∧
      (tariff.draw throttles ⟨100, 50000000⟩ 2 .one).throttles =
        (other.draw throttles ⟨100, 50000000⟩ 2 .one).throttles ∧
      tariff.costAt 2 .one 0 limits = 3000000 ∧
      throttles.map (·.free ⟨100, 50000000⟩) = [3000000, 2000000] := by
  intro limits creations throttles tariff other
  have made : limits.Built := .operations (rfl : Throttle.operations "limits" 10000 1000 = _)
  have made' : creations.Built := .operations (rfl : Throttle.operations "creations" 2000 1000 = _)
  have reached : ∀ t ∈ throttles, t.Reached fun _ => True :=
    List.forall_mem_cons.mpr ⟨made.reached fun _ _ => trivial,
      List.forall_mem_singleton.mpr (made'.reached (List.forall_mem_nil _))⟩
  obtain ⟨fit, order⟩ := draw_granted_iff_all_fit reached tariff ⟨100, 50000000⟩ 2 .one
  have granted : (tariff.draw throttles ⟨100, 50000000⟩ 2 .one).granted = true := by
    refine fit.mpr ?_
    simp only [tariff, List.forall_mem_cons]
    exact ⟨⟨_, rfl, by decide, by decide⟩, ⟨_, rfl, by decide, by decide⟩,
      ⟨_, rfl, by decide, by decide⟩, List.forall_mem_nil _⟩
  obtain ⟨verdict, same⟩ := order other (by decide)
  exact ⟨reached, granted, verdict ▸ granted, same granted, by decide, by decide⟩

/-- A draw that is denied, on throttles that operations at normal times lead to, records no usage.
The throttles after it have the same units free as before, at every time from the instant on, and
would have after a rollback of either, exactly if no throttle that held units without a decision
time was given one. -/
theorem denied_draw_unseen_iff (reached : ∀ t ∈ throttles, t.Reached Bucket.Op.Normal)
    (tariff : Tariff) {now : Timestamp} (normal : now.Normal) (quantity : Nat) (scale : ScaleFactor)
    (denied : (tariff.draw throttles now quantity scale).granted = false) :
    (tariff.draw throttles now quantity scale).usages = [] ∧
      (List.Forall₂ (Throttle.SameFree now) throttles
          (tariff.draw throttles now quantity scale).throttles ↔
        List.Forall₂ Throttle.KeepsClock throttles
          (tariff.draw throttles now quantity scale).throttles) := by
  have w : Portion.AllWellFormed throttles := fun t member => (reached t member).wellFormed
  rw [draw_eq] at denied ⊢
  have leaked := (List.forall₂_and_left _ _).mpr
    ⟨fun t member => (reached t member).normalTime, Portion.drawAll_leaked w denied⟩
  refine ⟨if_neg (Bool.eq_false_iff.mp denied), fun same => ?_, fun keeps => ?_⟩
  · exact (forall₂_and leaked same).imp fun t t' own =>
      (own.1.2.sameFree_iff own.1.1 normal).mp own.2
  · exact (forall₂_and leaked keeps).imp fun t t' own =>
      (own.1.2.sameFree_iff own.1.1 normal).mpr own.2

/-- Both throttles hold provisional units when the draw comes. The first grants its part, which is
then revoked, and has half a second of its units leaked. -/
theorem denied_draw_unseen_iff_half_way :
    let limits : Throttle := ⟨"limits", .operations, 10000, 1000000000, 1000,
      .new 10000000 1000000000⟩
    let creations : Throttle := ⟨"creations", .operations, 2000, 1000000000, 1000,
      .new 2000000 1000000000⟩
    let throttles : List Throttle :=
      [{ limits with bucket := limits.bucket.run [.draw ⟨100, 0⟩ 3000000, .commit,
          .draw ⟨100, 0⟩ 4000000] },
        { creations with bucket := creations.bucket.run [.draw ⟨100, 400000000⟩ 2000000] }]
    let tariff : Tariff := ⟨.cryptoCreate, [⟨0, 1000⟩, ⟨1, 1000⟩, ⟨5, 1000⟩], 7⟩
    let draw := tariff.draw throttles ⟨100, 500000000⟩ 1 .one
    (∀ t ∈ throttles, t.Reached Bucket.Op.Normal) ∧ draw.granted = false ∧ draw.usages = [] ∧
      draw.throttles.map (fun t => (t.used, t.bucket.lastDecision, t.bucket.provisional)) =
        [(2000000, some ⟨100, 500000000⟩, 2000000), (2000000, some ⟨100, 400000000⟩, 2000000)] ∧
      List.Forall₂ (Throttle.SameFree ⟨100, 500000000⟩) throttles draw.throttles := by
  intro limits creations throttles tariff draw
  have made : limits.Built := .operations (rfl : Throttle.operations "limits" 10000 1000 = _)
  have made' : creations.Built := .operations (rfl : Throttle.operations "creations" 2000 1000 = _)
  have reached : ∀ t ∈ throttles, t.Reached Bucket.Op.Normal :=
    List.forall_mem_cons.mpr ⟨made.reached (by decide),
      List.forall_mem_singleton.mpr (made'.reached (by decide))⟩
  have denied : draw.granted = false := by decide
  obtain ⟨unused, unseen⟩ :=
    denied_draw_unseen_iff reached tariff (by decide : Timestamp.Normal ⟨100, 500000000⟩) 1 .one
      denied
  have keeps : List.Forall₂ Throttle.KeepsClock throttles draw.throttles :=
    Throttle.keepsClock_of_timed (by decide) (by decide)
  exact ⟨reached, denied, unused, by decide, unseen.mpr keeps⟩

/-- Operations in use were restored without a decision time. A draw that is denied by the next
throttle starts their clock, so that a second later they have leaked away. -/
theorem denied_draw_can_start_a_clock :
    ¬ ∀ {throttles : List Throttle}, (∀ t ∈ throttles, t.Reached Bucket.Op.Normal) →
      ∀ (tariff : Tariff) {now : Timestamp}, now.Normal → ∀ (quantity : Nat) (scale : ScaleFactor),
        (tariff.draw throttles now quantity scale).granted = false →
          List.Forall₂ (Throttle.SameFree now) throttles
            (tariff.draw throttles now quantity scale).throttles := by
  intro unseen
  let calls : Throttle := ⟨"calls", .operations, 10000, 1000000000, 1000,
    .new 10000000 1000000000⟩
  let few : Throttle := ⟨"few", .operations, 1000, 1000000000, 1000, .new 1000000 1000000000⟩
  have made : calls.Built := .operations (rfl : Throttle.operations "calls" 10000 1000 = _)
  have made' : few.Built := .operations (rfl : Throttle.operations "few" 1000 1000 = _)
  have same := @unseen
    [{ calls with bucket := calls.bucket.run [.restore 9000000 none] },
      { few with bucket := few.bucket.run [.restore 1000000 (some ⟨100, 0⟩)] }]
    (List.forall_mem_cons.mpr ⟨made.reached (by decide),
      List.forall_mem_singleton.mpr (made'.reached (by decide))⟩)
    ⟨.contractCall, [⟨0, 1000⟩, ⟨1, 1000⟩], 1⟩ ⟨100, 0⟩ (by decide) 1 .one (by decide)
  have first := (List.forall₂_iff_get.mp same).2 0 (by decide) (by decide +kernel) ⟨101, 0⟩
    (by decide)
  exact absurd first.1 (by decide +kernel)

end Tariff

end Throttling
