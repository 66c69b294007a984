import Throttling.Proofs.ThrottleSet
import Mathlib.Algebra.Order.BigOperators.Group.List
import Mathlib.Data.Rat.Cast.Order
import Mathlib.Tactic.Linarith

/-!
# What a set grants in a window

A run on a set is a list of draws at times that do not go back, granted or denied, with commits in
between. In any window the draws granted charge a throttle of the set with at most its capacity and
what leaks over the window (`chargedIn_le`). The load of the throttle carries the induction: a
granted draw adds to it what it charges, nothing else changes it but the leak, and it never exceeds
the capacity.
-/

set_option autoImplicit false

namespace Throttling.ThrottleSet

/-! ## Runs -/

/-- A step of a run: a draw at scale one, or a commit. -/
inductive Op where
  | draw (function : Functionality) (now : Timestamp) (quantity : Nat)
  | commit
  deriving DecidableEq, Repr

structure Grant where
  function : Functionality
  time : Timestamp
  quantity : Nat
  deriving DecidableEq, Repr

def Op.time? : Op → Option Timestamp
  | draw _ now _ => some now
  | commit => none

def apply (s : ThrottleSet) : Op → ThrottleSet
  | .draw function now quantity =>
    ((s.draw? function now quantity .one).map (·.set)).getD s
  | .commit => s.commit

def grant? (s : ThrottleSet) : Op → Option Grant
  | .draw function now quantity =>
    match s.draw? function now quantity .one with
    | some draw => if draw.granted then some ⟨function, now, quantity⟩ else none
    | none => none
  | .commit => none

def grants (s : ThrottleSet) : List Op → List Grant
  | [] => []
  | op :: ops => (s.grant? op).toList ++ (s.apply op).grants ops

/-- The draws of a run are at normal times, none before an earlier one. -/
structure Chronological (ops : List Op) : Prop where
  normal : ∀ op ∈ ops, ∀ t ∈ op.time?, t.Normal
  ordered : (ops.filterMap Op.time?).Pairwise fun earlier later => earlier ≤ later

/-! ## Charges -/

def costOn (s : ThrottleSet) (function : Functionality) (position : Nat) : Nat :=
  (((s.requirements function).filter fun r => r.throttle = position).map (·.milliOps)).sum

/-- The micro-operations that a granted draw charges at a position, before any rounding up. -/
def charge (s : ThrottleSet) (position : Nat) (g : Grant) : Nat :=
  microsPerMilli * (s.costOn g.function position * g.quantity)

/-- A well-formed throttle of operations with a capacity in range and a burst period. -/
structure Metered (capacity burstNanos : Nat) (t : Throttle) : Prop where
  wellFormed : t.bucket.WellFormed
  times : t.bucket.NormalTime
  capacity_eq : t.bucket.capacity = capacity
  burst_eq : t.bucket.burstNanos = burstNanos
  unitsPerAmount : t.unitsPerAmount = microsPerMilli
  capacity_lt : capacity < Word.max64

/-- Units that fit a capacity in range are charged in full. -/
theorem le_units {t : Throttle} (unitsPerAmount : t.unitsPerAmount = microsPerMilli)
    (milliOps quantity : Nat)
    (inRange : t.units (Tariff.amount milliOps quantity .one) < Word.max64) :
    microsPerMilli * (milliOps * quantity) ≤ t.units (Tariff.amount milliOps quantity .one) := by
  unfold Throttle.units Tariff.amount ScaleFactor.apply ScaleFactor.one at *
  rw [unitsPerAmount] at *
  unfold Word.saturate64 Word.max64 microsPerMilli at *
  dsimp only at *
  omega

variable {s : ThrottleSet} {position : Nat} {t : Throttle} {now : Timestamp}

/-- Portions that fit a capacity in range together are charged in full. -/
theorem le_unitsOn (unitsPerAmount : t.unitsPerAmount = microsPerMilli)
    {requirements : List Requirement} {quantity : Nat}
    (inRange : Portion.unitsOn
      (requirements.map fun r => ⟨r.throttle, Tariff.amount r.milliOps quantity .one⟩)
      position t < Word.max64) :
    microsPerMilli *
        (((requirements.filter fun r => r.throttle = position).map (·.milliOps)).sum * quantity) ≤
      Portion.unitsOn
        (requirements.map fun r => ⟨r.throttle, Tariff.amount r.milliOps quantity .one⟩)
        position t := by
  induction requirements with
  | nil => simp
  | cons r rs ih =>
    rw [List.map_cons] at inRange ⊢
    by_cases here : r.throttle = position
    · subst here
      rw [Portion.unitsOn_cons_self] at inRange ⊢
      dsimp only at inRange ⊢
      have first := le_units unitsPerAmount r.milliOps quantity (by omega)
      have rest := ih (by omega)
      simp only [List.filter_cons, decide_true, if_true, List.map_cons, List.sum_cons,
        Nat.add_mul, Nat.mul_add]
      omega
    · rw [Portion.unitsOn_cons_of_ne here] at inRange ⊢
      have rest := ih inRange
      simpa only [List.filter_cons, here, decide_false, Bool.false_eq_true, if_false] using rest

/-! ## Steps -/

/-- A functionality without a tariff is not drawn. -/
theorem draw_of_none {function : Functionality} (missing : s.tariff? function = none)
    (now : Timestamp) (quantity : Nat) :
    s.apply (.draw function now quantity) = s ∧ s.grant? (.draw function now quantity) = none := by
  simp [apply, grant?, draw?, missing]

/-- Any other functionality draws the portions of its tariff. -/
theorem draw_of_some {function : Functionality} {tariff : Tariff}
    (found : s.tariff? function = some tariff) (now : Timestamp) (quantity : Nat) :
    s.apply (.draw function now quantity) =
        { s with
          throttles := (Portion.drawAll now (tariff.portions quantity .one) s.throttles).2 } ∧
      s.grant? (.draw function now quantity) =
        if (Portion.drawAll now (tariff.portions quantity .one) s.throttles).1 then
          some ⟨function, now, quantity⟩
        else none := by
  simp [apply, grant?, draw?, found, Tariff.draw_eq]

@[simp] theorem costs_apply (s : ThrottleSet) (op : Op) : (s.apply op).costs = s.costs := by
  cases op with
  | draw function now quantity =>
    cases found : s.tariff? function with
    | none => rw [(draw_of_none found now quantity).1]
    | some tariff => rw [(draw_of_some found now quantity).1]
  | commit => rfl

theorem charge_apply (op : Op) : (s.apply op).charge position = s.charge position := by
  funext g
  simp only [charge, costOn, requirements, costs_apply]

/-- A step keeps the throttles well formed. -/
theorem apply_wellFormed (w : Portion.AllWellFormed s.throttles) (op : Op) :
    Portion.AllWellFormed (s.apply op).throttles := by
  cases op with
  | draw function now quantity =>
    cases found : s.tariff? function with
    | none =>
      rw [(draw_of_none found now quantity).1]
      exact w
    | some tariff =>
      rw [(draw_of_some found now quantity).1]
      exact Portion.drawAll_wellFormed w
  | commit =>
    intro t' member
    obtain ⟨t, before, rfl⟩ := List.mem_map.mp member
    exact Bucket.commit_wellFormed (w t before)

variable {capacity burstNanos : Nat}

theorem Metered.claim {units : Nat} (metered : Metered capacity burstNanos t)
    (normal : now.Normal) (fits : units ≤ t.free now) :
    Metered capacity burstNanos (t.claim now units) where
  wellFormed := Bucket.claim_wellFormed metered.wellFormed fits
  times := Bucket.claim_normalTime metered.wellFormed metered.times normal units
  capacity_eq := metered.capacity_eq
  burst_eq := metered.burst_eq
  unitsPerAmount := metered.unitsPerAmount
  capacity_lt := metered.capacity_lt

/-- Units claimed are load on top, at the instant of the claim. -/
theorem Metered.loadAt_claim (metered : Metered capacity burstNanos t) (units : Nat) :
    (t.claim now units).bucket.loadAt now = t.bucket.loadAt now + units * burstNanos := by
  rw [← metered.burst_eq]
  exact Bucket.loadAt_claim metered.wellFormed now units

/-- A metered throttle with `charged` units more in use at `now` than another, at least. -/
def Charged (capacity burstNanos charged : Nat) (now : Timestamp) (t t' : Throttle) : Prop :=
  Metered capacity burstNanos t' ∧
    t.bucket.loadAt now + charged * burstNanos ≤ t'.bucket.loadAt now

/-- A throttle is charged by what is claimed from it. -/
theorem Metered.charged_claim (metered : Metered capacity burstNanos t) (normal : now.Normal)
    {units charged : Nat} (fits : units ≤ t.free now) (covered : charged ≤ units) :
    Charged capacity burstNanos charged now t (t.claim now units) := by
  refine ⟨metered.claim normal fits, ?_⟩
  rw [metered.loadAt_claim]
  exact Nat.add_le_add_left (Nat.mul_le_mul_right burstNanos covered) _

theorem Metered.charged_zero (metered : Metered capacity burstNanos t) (now : Timestamp) :
    Charged capacity burstNanos 0 now t t := by
  refine ⟨metered, ?_⟩
  rw [Nat.zero_mul, Nat.add_zero]

/-- The portions of a tariff cover its charge where they fit a capacity in range. -/
theorem charge_le_unitsOn {function : Functionality} {tariff : Tariff}
    (listed : s.tariff? function = some tariff) (unitsPerAmount : t.unitsPerAmount = microsPerMilli)
    (now : Timestamp) {quantity : Nat}
    (inRange : Portion.unitsOn (tariff.portions quantity .one) position t < Word.max64) :
    s.charge position ⟨function, now, quantity⟩ ≤
      Portion.unitsOn (tariff.portions quantity .one) position t := by
  rw [charge, costOn, ← requirements_of_tariff? listed]
  exact le_unitsOn unitsPerAmount inRange

/-- A granted draw charges each throttle with what its functionality costs there. -/
theorem charged_of_granted (w : Portion.AllWellFormed s.throttles)
    (found : s.throttles[position]? = some t) (metered : Metered capacity burstNanos t)
    (normal : now.Normal) {function : Functionality} {quantity : Nat} {tariff : Tariff}
    (listed : s.tariff? function = some tariff)
    (granted : (Portion.drawAll now (tariff.portions quantity .one) s.throttles).1 = true) :
    ∃ t', (Portion.drawAll now (tariff.portions quantity .one) s.throttles).2[position]? =
        some t' ∧
      Charged capacity burstNanos (s.charge position ⟨function, now, quantity⟩) now t t' := by
  refine ⟨_, Portion.getElem?_drawAll_granted w granted found, ?_⟩
  by_cases named : Portion.names (tariff.portions quantity .one) position
  · rw [if_pos named]
    obtain ⟨p, member, here⟩ := List.any_eq_true.mp named
    obtain ⟨t', there, -, fits⟩ := (Portion.drawAll_granted_iff w).mp granted p member
    rw [of_decide_eq_true here] at there fits
    obtain rfl := Option.some.inj (found.symm.trans there)
    have inRange : Portion.unitsOn (tariff.portions quantity .one) position t < Word.max64 :=
      calc
        _ ≤ t.free now := fits
        _ ≤ t.bucket.capacity := Nat.sub_le _ _
        _ = capacity := metered.capacity_eq
        _ < Word.max64 := metered.capacity_lt
    exact metered.charged_claim normal fits
      (charge_le_unitsOn listed metered.unitsPerAmount now inRange)
  · rw [if_neg named]
    have nothing := Portion.unitsOn_of_not_names (Bool.eq_false_iff.mpr named) t
    have free : s.charge position ⟨function, now, quantity⟩ = 0 := by
      have covered := charge_le_unitsOn listed metered.unitsPerAmount now
        (by rw [nothing]; decide)
      rw [nothing] at covered
      exact Nat.le_zero.mp covered
    rw [free]
    exact metered.charged_zero now

/-- A draw charges each throttle with what it grants. -/
theorem draw_charged (w : Portion.AllWellFormed s.throttles)
    (found : s.throttles[position]? = some t) (metered : Metered capacity burstNanos t)
    (normal : now.Normal) (function : Functionality) (quantity : Nat) :
    ∃ t', (s.apply (.draw function now quantity)).throttles[position]? = some t' ∧
      Charged capacity burstNanos
        ((s.grant? (.draw function now quantity)).toList.map (s.charge position)).sum now t t' := by
  cases listed : s.tariff? function with
  | none =>
    obtain ⟨same, nothing⟩ := draw_of_none listed now quantity
    rw [same, nothing]
    exact ⟨t, found, metered.charged_zero now⟩
  | some tariff =>
    obtain ⟨drawn, grant⟩ := draw_of_some listed now quantity
    rw [drawn, grant]
    cases verdict : (Portion.drawAll now (tariff.portions quantity .one) s.throttles).1 with
    | true =>
      rw [if_pos rfl, Option.toList_some, List.map_singleton, List.sum_singleton]
      exact charged_of_granted w found metered normal listed verdict
    | false =>
      obtain ⟨t', after, outcome⟩ := Portion.getElem?_drawAll_denied w verdict found
      refine ⟨t', after, ?_⟩
      rcases outcome with rfl | rfl
      · exact metered.charged_zero now
      · exact metered.charged_claim normal (Nat.zero_le _) (Nat.le_refl _)

/-- A commit leaves each throttle with its load. -/
theorem commit_metered (found : s.throttles[position]? = some t)
    (metered : Metered capacity burstNanos t) :
    (s.apply .commit).throttles[position]? = some t.commit ∧
      Metered capacity burstNanos t.commit := by
  refine ⟨?_, ?_⟩
  · rw [apply, commit, mapThrottles, List.getElem?_map, found]
    rfl
  · exact ⟨Bucket.commit_wellFormed metered.wellFormed, metered.times, metered.capacity_eq,
      metered.burst_eq, metered.unitsPerAmount, metered.capacity_lt⟩

/-! ## Runs over a window -/

def window (first last : ℚ) (gs : List Grant) : List Grant :=
  gs.filter fun g => first ≤ g.time.toNanos ∧ g.time.toNanos ≤ last

/-- What the grants of a run between two instants charge at a position. -/
def chargedIn (s : ThrottleSet) (position : Nat) (first last : ℚ) (ops : List Op) : Nat :=
  ((window first last (s.grants ops)).map (s.charge position)).sum

variable {first last : ℚ} {op : Op} {ops : List Op}

theorem chargedIn_cons (s : ThrottleSet) (position : Nat) (first last : ℚ) (op : Op)
    (ops : List Op) :
    s.chargedIn position first last (op :: ops) =
      ((window first last (s.grant? op).toList).map (s.charge position)).sum +
        (s.apply op).chargedIn position first last ops := by
  rw [chargedIn, grants, window, List.filter_append, List.map_append, List.sum_append,
    chargedIn, charge_apply]
  rfl

theorem window_sum_le (first last : ℚ) (gs : List Grant) (amount : Grant → Nat) :
    ((window first last gs).map amount).sum ≤ (gs.map amount).sum :=
  (List.filter_sublist.map amount).sum_le_sum fun _ _ => Nat.zero_le _

theorem chargedIn_commit (s : ThrottleSet) (position : Nat) (first last : ℚ) (ops : List Op) :
    s.chargedIn position first last (.commit :: ops) =
      (s.apply .commit).chargedIn position first last ops := by
  rw [chargedIn_cons]
  exact Nat.zero_add _

theorem time_of_grant? {s : ThrottleSet} {g : Grant} (granted : g ∈ s.grant? op) :
    g.time ∈ op.time? := by
  cases op with
  | commit => cases granted
  | draw function now quantity =>
    cases listed : s.tariff? function with
    | none =>
      rw [(draw_of_none listed now quantity).2] at granted
      cases granted
    | some tariff =>
      rw [(draw_of_some listed now quantity).2] at granted
      split at granted
      · cases granted
        rfl
      · cases granted

/-- Every grant is for a draw of the run. -/
theorem time_of_mem_grants {s : ThrottleSet} {g : Grant} (member : g ∈ s.grants ops) :
    ∃ op ∈ ops, g.time ∈ op.time? := by
  induction ops generalizing s with
  | nil => cases member
  | cons op ops ih =>
    rcases List.mem_append.mp member with here | later
    · exact ⟨op, List.mem_cons_self, time_of_grant? (Option.mem_toList.mp here)⟩
    · obtain ⟨op', listed, time⟩ := ih later
      exact ⟨op', List.mem_cons_of_mem op listed, time⟩

/-- No grant falls in a window that ends before all draws. -/
theorem chargedIn_eq_zero (late : ∀ op ∈ ops, ∀ time ∈ op.time?, last < time.toNanos) :
    s.chargedIn position first last ops = 0 := by
  have nothing : window first last (s.grants ops) = [] := by
    refine List.filter_eq_nil_iff.mpr fun g member => ?_
    obtain ⟨op, listed, time⟩ := time_of_mem_grants member
    simp [late op listed g.time time]
  rw [chargedIn, nothing]
  rfl

/-- A draw before a window does not count in it. -/
theorem chargedIn_of_early {function : Functionality} {quantity : Nat}
    (early : now.toNanos < first) :
    s.chargedIn position first last (.draw function now quantity :: ops) =
      (s.apply (.draw function now quantity)).chargedIn position first last ops := by
  have nothing : window first last (s.grant? (.draw function now quantity)).toList = [] := by
    refine List.filter_eq_nil_iff.mpr fun g member => ?_
    obtain rfl := Option.some.inj (time_of_grant? (Option.mem_toList.mp member))
    simp [early]
  rw [chargedIn_cons, nothing]
  exact Nat.zero_add _

namespace Chronological

theorem tail (chronological : Chronological (op :: ops)) : Chronological ops where
  normal := fun op' member => chronological.normal op' (List.mem_cons_of_mem op member)
  ordered := by
    have ordered := chronological.ordered
    rw [List.filterMap_cons] at ordered
    split at ordered
    · exact ordered
    · exact (List.pairwise_cons.mp ordered).2

variable {function : Functionality} {quantity : Nat} {time : Timestamp}

/-- No draw of a run is before the first one. -/
theorem after (chronological : Chronological (.draw function now quantity :: ops))
    (member : op ∈ ops) (timed : time ∈ op.time?) : now ≤ time :=
  (List.pairwise_cons.mp chronological.ordered).1 time
    (List.mem_filterMap.mpr ⟨op, member, timed⟩)

theorem first_le (chronological : Chronological (.draw function now quantity :: ops))
    (member : op ∈ Op.draw function now quantity :: ops) (timed : time ∈ op.time?) :
    now ≤ time := by
  rcases List.mem_cons.mp member with rfl | later
  · cases timed
    exact Timestamp.le_refl now
  · exact chronological.after later timed

/-- When the first draw is past a window, all of them are. -/
theorem late (chronological : Chronological (.draw function now quantity :: ops))
    (past : last < now.toNanos) (member : op ∈ Op.draw function now quantity :: ops)
    (timed : time ∈ op.time?) : last < time.toNanos := by
  have order := (Timestamp.le_iff_toNanos_le (chronological.normal _ List.mem_cons_self now rfl)
    (chronological.normal op member time timed)).mp (chronological.first_le member timed)
  exact lt_of_lt_of_le past (Int.cast_le.mpr order)

end Chronological

theorem cast_nanosSince {now time : Timestamp} (normal : now.Normal) (normal' : time.Normal)
    (order : now ≤ time) :
    ((time.nanosSince now : Nat) : ℚ) = (time.toNanos : ℚ) - now.toNanos := by
  have nonneg := (Timestamp.le_iff_toNanos_le normal normal').mp order
  have whole : ((time.nanosSince now : Nat) : ℤ) = time.toNanos - now.toNanos :=
    Int.toNat_of_nonneg (by omega)
  exact_mod_cast whole

/-- The capacity bounds the load at any instant. -/
theorem Metered.loadAt_le (metered : Metered capacity burstNanos t) (now : Timestamp)
    (inside : now.toNanos ≤ last) :
    (t.bucket.loadAt now : ℚ) ≤ capacity * burstNanos + capacity * (last - now.toNanos) := by
  have leaked : (0 : ℚ) ≤ capacity * (last - now.toNanos) :=
    mul_nonneg (Nat.cast_nonneg _) (sub_nonneg.mpr inside)
  have full : (t.bucket.loadAt now : ℚ) ≤ capacity * burstNanos := by
    have bound := Nat.le_trans (t.bucket.loadAt_le_load now) (Bucket.load_le metered.wellFormed)
    rw [metered.capacity_eq, metered.burst_eq] at bound
    exact_mod_cast bound
  linarith

/-- From an instant up to a draw the load leaks, and at the draw it grows by what that is charged in
the window. -/
theorem loadAt_add_window_le (w : Portion.AllWellFormed s.throttles)
    (found : s.throttles[position]? = some t) (metered : Metered capacity burstNanos t)
    {time : Timestamp} (normal : now.Normal) (normal' : time.Normal) (order : now ≤ time)
    (function : Functionality) (quantity : Nat) (first last : ℚ) :
    ∃ t', (s.apply (.draw function time quantity)).throttles[position]? = some t' ∧
      Metered capacity burstNanos t' ∧
      (t.bucket.loadAt now : ℚ) +
          ((window first last (s.grant? (.draw function time quantity)).toList).map
            (s.charge position)).sum * burstNanos ≤
        t'.bucket.loadAt time + capacity * (time.toNanos - now.toNanos) := by
  obtain ⟨t', found', metered', step⟩ := draw_charged w found metered normal' function quantity
  have leak := Bucket.loadAt_le_add metered.times normal normal' order
  rw [metered.capacity_eq, Nat.mul_comm] at leak
  have counted := Nat.mul_le_mul_right burstNanos (window_sum_le first last
    (s.grant? (.draw function time quantity)).toList (s.charge position))
  refine ⟨t', found', metered', ?_⟩
  rw [← cast_nanosSince normal normal' order]
  exact_mod_cast (by omega)

/-- From an instant on, the load and what is charged up to the end of a window stay within the
capacity and what leaks until then. -/
theorem loadAt_add_chargedIn_le (w : Portion.AllWellFormed s.throttles)
    (found : s.throttles[position]? = some t) (metered : Metered capacity burstNanos t)
    (chronological : Chronological ops) (normal : now.Normal)
    (after : ∀ op ∈ ops, ∀ time ∈ op.time?, now ≤ time) (first : ℚ) (inside : now.toNanos ≤ last) :
    (t.bucket.loadAt now : ℚ) + s.chargedIn position first last ops * burstNanos ≤
      capacity * burstNanos + capacity * (last - now.toNanos) := by
  induction ops generalizing s t now with
  | nil =>
    rw [show s.chargedIn position first last [] = 0 from rfl, Nat.cast_zero, zero_mul, add_zero]
    exact metered.loadAt_le now inside
  | cons op ops ih =>
    have wellFormed := apply_wellFormed w op
    cases op with
    | commit =>
      obtain ⟨found', metered'⟩ := commit_metered found metered
      have rest := ih wellFormed found' metered' chronological.tail normal
        (fun op member => after op (List.mem_cons_of_mem _ member)) inside
      rw [chargedIn_commit]
      exact rest
    | draw function time quantity =>
      have normal' := chronological.normal _ List.mem_cons_self time rfl
      have order := after _ List.mem_cons_self time rfl
      by_cases inside' : time.toNanos ≤ last
      · obtain ⟨t', found', metered', upToDraw⟩ :=
          loadAt_add_window_le w found metered normal normal' order function quantity first last
        have rest := ih wellFormed found' metered' chronological.tail normal'
          (fun op member time' => chronological.after member) inside'
        rw [chargedIn_cons, Nat.cast_add, add_mul]
        linarith
      · -- the window is over, and nothing is charged any more
        rw [chargedIn_eq_zero fun _ member _ timed =>
          chronological.late (not_le.mp inside') member timed, Nat.cast_zero, zero_mul, add_zero]
        exact metered.loadAt_le now inside

/-- In any window the draws granted charge a throttle with at most its capacity and what leaks over
the window. -/
theorem chargedIn_le (w : Portion.AllWellFormed s.throttles)
    (found : s.throttles[position]? = some t) (metered : Metered capacity burstNanos t)
    (chronological : Chronological ops) (ordered : first ≤ last) :
    (s.chargedIn position first last ops : ℚ) * burstNanos ≤
      capacity * burstNanos + capacity * (last - first) := by
  induction ops generalizing s t with
  | nil =>
    rw [show s.chargedIn position first last [] = 0 from rfl, Nat.cast_zero, zero_mul]
    have := sub_nonneg.mpr ordered
    positivity
  | cons op ops ih =>
    have wellFormed := apply_wellFormed w op
    cases op with
    | commit =>
      obtain ⟨found', metered'⟩ := commit_metered found metered
      rw [chargedIn_commit]
      exact ih wellFormed found' metered' chronological.tail
    | draw function time quantity =>
      have normal := chronological.normal _ List.mem_cons_self time rfl
      by_cases early : time.toNanos < first
      · obtain ⟨t', found', metered', -⟩ := draw_charged w found metered normal function quantity
        rw [chargedIn_of_early early]
        exact ih wellFormed found' metered' chronological.tail
      have leaked : (0 : ℚ) ≤ capacity * (last - first) :=
        mul_nonneg (Nat.cast_nonneg _) (sub_nonneg.mpr ordered)
      by_cases inside : time.toNanos ≤ last
      · -- the window counts from its first draw on, and leaks no more than in all its length
        have counted := loadAt_add_chargedIn_le w found metered chronological normal
          (fun _ member _ timed => chronological.first_le member timed) first inside
        have shorter : (capacity : ℚ) * (last - time.toNanos) ≤ capacity * (last - first) :=
          mul_le_mul_of_nonneg_left (by linarith) (Nat.cast_nonneg _)
        have load : (0 : ℚ) ≤ t.bucket.loadAt time := Nat.cast_nonneg _
        linarith
      · rw [chargedIn_eq_zero fun _ member _ timed =>
          chronological.late (not_le.mp inside) member timed, Nat.cast_zero, zero_mul]
        positivity

end Throttling.ThrottleSet
