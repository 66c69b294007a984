import Throttling.Tariff
import Throttling.Proofs.Bucket.Operations
import Mathlib.Data.List.Forall2

/-!
# Draws on several throttles

Portions are drawn one after the other, from throttles that may be named more than once. Both
outcomes are described through the throttles before the draw: it is granted exactly if every
throttle named has room for all portions that name it together (`drawAll_granted_iff`), a granted
draw claims exactly those amounts (`getElem?_drawAll_granted`), and a denied one leaves each
throttle as it was or leaked up to the instant (`getElem?_drawAll_denied`).
-/

set_option autoImplicit false

namespace Throttling

namespace Throttle

/-- The throttle with `units` of its bucket claimed at `now`. -/
def claim (t : Throttle) (now : Timestamp) (units : Nat) : Throttle :=
  { t with bucket := t.bucket.claim now units }

variable {t : Throttle}

@[simp] theorem free_claim (t : Throttle) (now : Timestamp) (units : Nat) :
    (t.claim now units).free now = t.free now - units := t.bucket.free_claim now units

@[simp] theorem claim_claim (t : Throttle) (now : Timestamp) (units more : Nat) :
    (t.claim now units).claim now more = t.claim now (units + more) :=
  congrArg (fun bucket => { t with bucket }) (t.bucket.claim_claim now units more)

theorem draw?_eq (w : t.bucket.WellFormed) (now : Timestamp) (amount : Nat) :
    t.draw? now amount =
      if t.capacity ≠ 0 ∧ t.units amount ≤ t.free now then some (t.claim now (t.units amount))
      else none := by
  rw [draw?, Bucket.draw?_eq w, apply_ite (Option.map _)]
  rfl

/-- The throttle as it was, or leaked up to `now` with some units claimed that were free. -/
def Touched (now : Timestamp) (t t' : Throttle) : Prop :=
  t' = t ∨ ∃ units, units ≤ t.free now ∧ t' = t.claim now units

theorem Touched.wellFormed {now : Timestamp} {t' : Throttle} (touched : Touched now t t')
    (w : t.bucket.WellFormed) : t'.bucket.WellFormed := by
  rcases touched with rfl | ⟨units, fits, rfl⟩
  · exact w
  · exact Bucket.claim_wellFormed w fits

theorem revoke_claim (w : t.bucket.WellFormed) (now : Timestamp) {units amount : Nat}
    (h : t.units amount ≤ units) :
    (t.claim now units).revoke amount = t.claim now (units - t.units amount) :=
  congrArg (fun bucket => { t with bucket }) (Bucket.revoke_claim w now h)

end Throttle

namespace Portion

/-- The bucket units that portions ask of the throttle `t` at a position. -/
def unitsOn (portions : List Portion) (position : Nat) (t : Throttle) : Nat :=
  ((portions.filter fun p => p.throttle = position).map fun p => t.units p.amount).sum

def names (portions : List Portion) (position : Nat) : Bool :=
  portions.any fun p => p.throttle = position

/-- Every throttle that portions name exists, has capacity, and has room for all portions that name
it. -/
def Fit (portions : List Portion) (throttles : List Throttle) (now : Timestamp) : Prop :=
  ∀ p ∈ portions, ∃ t, throttles[p.throttle]? = some t ∧ t.capacity ≠ 0 ∧
    unitsOn portions p.throttle t ≤ t.free now

def AllWellFormed (throttles : List Throttle) : Prop := ∀ t ∈ throttles, t.bucket.WellFormed

variable {now : Timestamp} {p : Portion} {ps : List Portion} {ts drawn : List Throttle}

theorem unitsOn_cons_self (p : Portion) (ps : List Portion) (t : Throttle) :
    unitsOn (p :: ps) p.throttle t = t.units p.amount + unitsOn ps p.throttle t := by
  simp [unitsOn]

theorem unitsOn_cons_of_ne {position : Nat} (other : p.throttle ≠ position) (t : Throttle) :
    unitsOn (p :: ps) position t = unitsOn ps position t := by
  simp [unitsOn, other]

theorem unitsOn_of_not_names {position : Nat} (absent : names ps position = false)
    (t : Throttle) : unitsOn ps position t = 0 := by
  have none : ps.filter (fun p => p.throttle = position) = [] := by
    simpa [names, List.filter_eq_nil_iff] using absent
  rw [unitsOn, none]
  rfl

@[simp] theorem unitsOn_claim (ps : List Portion) (position : Nat) (t : Throttle)
    (now : Timestamp) (units : Nat) :
    unitsOn ps position (t.claim now units) = unitsOn ps position t := rfl

/-- A portion is drawn from a throttle that is there, has capacity and has room for it. -/
theorem draw?_eq_some_iff (w : AllWellFormed ts) :
    p.draw? ts now = some drawn ↔
      ∃ t, ts[p.throttle]? = some t ∧ (t.capacity ≠ 0 ∧ t.units p.amount ≤ t.free now) ∧
        drawn = ts.set p.throttle (t.claim now (t.units p.amount)) := by
  unfold draw?
  cases found : ts[p.throttle]? with
  | none => simp
  | some t =>
    have wellFormed := w t (List.mem_of_getElem? found)
    by_cases room : t.capacity ≠ 0 ∧ t.units p.amount ≤ t.free now
    · simp only [Throttle.draw?_eq wellFormed, if_pos room, Option.bind_eq_bind, Option.bind_some,
        Option.pure_def, Option.some.injEq, exists_eq_left', and_iff_right room]
      exact eq_comm
    · simp [Throttle.draw?_eq wellFormed, room]

theorem set_claim_wellFormed (w : AllWellFormed ts) {t : Throttle} {position units : Nat}
    (found : ts[position]? = some t) (fits : units ≤ t.free now) :
    AllWellFormed (ts.set position (t.claim now units)) := by
  intro s member
  rcases List.mem_or_eq_of_mem_set member with old | rfl
  · exact w s old
  · exact Bucket.claim_wellFormed (w t (List.mem_of_getElem? found)) fits

theorem getElem?_set_claim {t : Throttle} {position : Nat} (found : ts[position]? = some t)
    (now : Timestamp) (units : Nat) :
    (ts.set position (t.claim now units))[position]? = some (t.claim now units) :=
  List.getElem?_set_self (List.getElem?_eq_some_iff.mp found).choose

/-- The first of several portions fits together with the others exactly if it fits alone and the
others fit after it. -/
theorem fit_cons_iff {t : Throttle} (found : ts[p.throttle]? = some t)
    (room : t.capacity ≠ 0 ∧ t.units p.amount ≤ t.free now) :
    Fit (p :: ps) ts now ↔ Fit ps (ts.set p.throttle (t.claim now (t.units p.amount))) now := by
  have own := getElem?_set_claim found now (t.units p.amount)
  constructor
  · intro fit q member
    obtain ⟨s, there, capacity, units⟩ := fit q (List.mem_cons_of_mem p member)
    by_cases same : p.throttle = q.throttle
    · rw [← same] at there units ⊢
      obtain rfl : t = s := Option.some.inj (found.symm.trans there)
      rw [unitsOn_cons_self] at units
      exact ⟨_, own, capacity, by rw [unitsOn_claim, Throttle.free_claim]; omega⟩
    · rw [unitsOn_cons_of_ne same] at units
      exact ⟨s, by rw [List.getElem?_set_ne same]; exact there, capacity, units⟩
  · intro fit q member
    by_cases same : p.throttle = q.throttle
    · rw [← same]
      refine ⟨t, found, room.1, ?_⟩
      rw [unitsOn_cons_self]
      -- the others ask for nothing here, or their first one that does bounds them all
      by_cases asked : names ps p.throttle
      · obtain ⟨r, later, names⟩ := List.any_eq_true.mp asked
        obtain ⟨s, there, capacity, units⟩ := fit r later
        rw [of_decide_eq_true names] at there units
        obtain rfl := Option.some.inj (own.symm.trans there)
        rw [unitsOn_claim, Throttle.free_claim] at units
        omega
      · rw [unitsOn_of_not_names (Bool.eq_false_iff.mpr asked)]
        exact room.2
    · have later : q ∈ ps := by
        rcases List.mem_cons.mp member with rfl | later
        · exact absurd rfl same
        · exact later
      obtain ⟨s, there, capacity, units⟩ := fit q later
      rw [List.getElem?_set_ne same] at there
      exact ⟨s, there, capacity, by rw [unitsOn_cons_of_ne same]; exact units⟩

theorem not_fit_of_draw?_eq_none (w : AllWellFormed ts) (denied : p.draw? ts now = none) :
    ¬ Fit (p :: ps) ts now := by
  intro fit
  obtain ⟨t, found, capacity, units⟩ := fit p List.mem_cons_self
  rw [unitsOn_cons_self] at units
  have room : t.units p.amount ≤ t.free now := by omega
  have granted := (draw?_eq_some_iff w).mpr ⟨t, found, ⟨capacity, room⟩, rfl⟩
  rw [denied] at granted
  cases granted

/-- After a first portion that is drawn the others decide, and revoke it if they fail. -/
theorem drawAll_cons (first : p.draw? ts now = some drawn) :
    drawAll now (p :: ps) ts =
      ((drawAll now ps drawn).1,
        if (drawAll now ps drawn).1 then (drawAll now ps drawn).2
        else p.revoke (drawAll now ps drawn).2) := by
  rw [drawAll, first]
  dsimp only
  split <;> simp_all

/-- Portions that fit ask of each throttle what is free there, whether they name it or not. -/
theorem Fit.unitsOn_le {t : Throttle} {position : Nat} (fit : Fit ps ts now)
    (found : ts[position]? = some t) : unitsOn ps position t ≤ t.free now := by
  cases named : names ps position with
  | false =>
    rw [unitsOn_of_not_names named]
    exact Nat.zero_le _
  | true =>
    obtain ⟨p, member, here⟩ := List.any_eq_true.mp named
    obtain ⟨s, there, -, fits⟩ := fit p member
    rw [of_decide_eq_true here] at there fits
    obtain rfl := Option.some.inj (found.symm.trans there)
    exact fits

/-- Drawing in turn grants exactly what fits all at once. -/
theorem drawAll_granted_iff (w : AllWellFormed ts) :
    (drawAll now ps ts).1 = true ↔ Fit ps ts now := by
  induction ps generalizing ts with
  | nil => simp [drawAll, Fit]
  | cons p ps ih =>
    cases first : p.draw? ts now with
    | none => simp [drawAll, first, not_fit_of_draw?_eq_none w first]
    | some drawn =>
      obtain ⟨t, found, room, rfl⟩ := (draw?_eq_some_iff w).mp first
      rw [drawAll_cons first, ih (set_claim_wellFormed w found room.2), fit_cons_iff found room]

theorem drawAll_cons_of_none (first : p.draw? ts now = none) :
    drawAll now (p :: ps) ts = (false, ts) := by
  rw [drawAll, first]

theorem length_drawAll (w : AllWellFormed ts) : (drawAll now ps ts).2.length = ts.length := by
  induction ps generalizing ts with
  | nil => rfl
  | cons p ps ih =>
    cases first : p.draw? ts now with
    | none => rw [drawAll_cons_of_none first]
    | some drawn =>
      obtain ⟨t, found, room, rfl⟩ := (draw?_eq_some_iff w).mp first
      have rest := ih (set_claim_wellFormed w found room.2)
      rw [List.length_set] at rest
      rw [drawAll_cons first]
      dsimp only
      split
      · exact rest
      · rw [revoke, List.length_modify, rest]

/-- A granted draw claims from each throttle named what all portions together ask of it, and leaves
the others alone. -/
theorem getElem?_drawAll_granted (w : AllWellFormed ts) (granted : (drawAll now ps ts).1 = true)
    {position : Nat} {t : Throttle} (found : ts[position]? = some t) :
    (drawAll now ps ts).2[position]? =
      some (if names ps position then t.claim now (unitsOn ps position t) else t) := by
  induction ps generalizing ts t with
  | nil => exact found
  | cons p ps ih =>
    cases first : p.draw? ts now with
    | none =>
      rw [drawAll_cons_of_none first] at granted
      cases granted
    | some drawn =>
      obtain ⟨s, there, room, rfl⟩ := (draw?_eq_some_iff w).mp first
      rw [drawAll_cons first] at granted ⊢
      rw [if_pos granted]
      have rest := fun {r : Throttle} => ih (t := r) (set_claim_wellFormed w there room.2) granted
      by_cases same : p.throttle = position
      · subst same
        obtain rfl := Option.some.inj (there.symm.trans found)
        have named : names (p :: ps) p.throttle = true := by simp [names]
        rw [rest (getElem?_set_claim found now _), if_pos named, unitsOn_cons_self]
        by_cases again : names ps p.throttle
        · rw [if_pos again, unitsOn_claim, Throttle.claim_claim]
        · rw [if_neg again, unitsOn_of_not_names (Bool.eq_false_iff.mpr again), Nat.add_zero]
      · have others : names (p :: ps) position = names ps position := by simp [names, same]
        rw [rest ((List.getElem?_set_ne same).trans found), others, unitsOn_cons_of_ne same]

/-- A denied draw leaves each throttle as it was, or leaked up to the instant. -/
theorem getElem?_drawAll_denied (w : AllWellFormed ts) (denied : (drawAll now ps ts).1 = false)
    {position : Nat} {t : Throttle} (found : ts[position]? = some t) :
    ∃ t', (drawAll now ps ts).2[position]? = some t' ∧ (t' = t ∨ t' = t.claim now 0) := by
  induction ps generalizing ts t with
  | nil => cases denied
  | cons p ps ih =>
    cases first : p.draw? ts now with
    | none =>
      rw [drawAll_cons_of_none first]
      exact ⟨t, found, Or.inl rfl⟩
    | some drawn =>
      obtain ⟨s, there, room, rfl⟩ := (draw?_eq_some_iff w).mp first
      rw [drawAll_cons first] at denied ⊢
      dsimp only at denied
      simp only [denied, Bool.false_eq_true, if_false, revoke]
      have rest := fun {r : Throttle} => ih (t := r) (set_claim_wellFormed w there room.2) denied
      by_cases same : p.throttle = position
      · subst same
        obtain rfl := Option.some.inj (there.symm.trans found)
        have wellFormed := w s (List.mem_of_getElem? there)
        obtain ⟨t', result, outcome⟩ := rest (getElem?_set_claim found now _)
        -- whether the others touched it or not, exactly this portion is still claimed
        have claimed : t' = s.claim now (s.units p.amount) := by
          rcases outcome with rfl | rfl
          · rfl
          · rw [Throttle.claim_claim, Nat.add_zero]
        have revoked : (s.claim now (s.units p.amount)).revoke p.amount = s.claim now 0 := by
          rw [Throttle.revoke_claim wellFormed now (Nat.le_refl _), Nat.sub_self]
        refine ⟨s.claim now 0, ?_, Or.inr rfl⟩
        rw [List.getElem?_modify_eq, result, claimed]
        exact congrArg some revoked
      · rw [List.getElem?_modify_ne _ _ same]
        exact rest ((List.getElem?_set_ne same).trans found)

/-- Whatever the verdict, every throttle is as it was or has free units claimed. -/
theorem drawAll_touched (w : AllWellFormed ts) :
    List.Forall₂ (Throttle.Touched now) ts (drawAll now ps ts).2 := by
  refine List.forall₂_iff_get.mpr ⟨(length_drawAll w).symm, fun position before after => ?_⟩
  have found : ts[position]? = some ts[position] := List.getElem?_eq_getElem before
  have result := List.getElem?_eq_getElem after
  simp only [List.get_eq_getElem]
  cases verdict : (drawAll now ps ts).1 with
  | true =>
    have granted := getElem?_drawAll_granted w verdict found
    have state := Option.some.inj (result.symm.trans granted)
    by_cases named : names ps position
    · rw [if_pos named] at state
      exact Or.inr ⟨_, ((drawAll_granted_iff w).mp verdict).unitsOn_le found, state⟩
    · rw [if_neg named] at state
      exact Or.inl state
  | false =>
    obtain ⟨t', there, outcome⟩ := getElem?_drawAll_denied w verdict found
    obtain rfl := Option.some.inj (result.symm.trans there)
    exact outcome.imp_right fun settled => ⟨0, Nat.zero_le _, settled⟩

theorem drawAll_wellFormed (w : AllWellFormed ts) : AllWellFormed (drawAll now ps ts).2 := by
  intro t' member
  obtain ⟨position, after, rfl⟩ := List.getElem_of_mem member
  obtain ⟨length, touched⟩ := List.forall₂_iff_get.mp (drawAll_touched w)
  have before : position < ts.length := by
    rw [length]
    exact after
  exact (touched position before after).wellFormed (w _ (List.getElem_mem before))

end Portion

/-- A draw on a tariff draws its portions, and records them if that is granted. -/
theorem Tariff.draw_eq (t : Tariff) (throttles : List Throttle) (now : Timestamp) (quantity : Nat)
    (scale : ScaleFactor) :
    t.draw throttles now quantity scale =
      ⟨(Portion.drawAll now (t.portions quantity scale) throttles).1,
        (Portion.drawAll now (t.portions quantity scale) throttles).2,
        if (Portion.drawAll now (t.portions quantity scale) throttles).1 then
          (t.portions quantity scale).map t.usage
        else []⟩ := by
  unfold Tariff.draw
  dsimp only
  split <;> simp_all

/-- A granted draw records each of its portions. -/
theorem Tariff.usages_of_granted {t : Tariff} {throttles : List Throttle} {now : Timestamp}
    {quantity : Nat} {scale : ScaleFactor}
    (granted : (t.draw throttles now quantity scale).granted = true) :
    (t.draw throttles now quantity scale).usages =
      (t.portions quantity scale).map t.usage := by
  rw [draw_eq] at granted ⊢
  exact if_pos granted

end Throttling
