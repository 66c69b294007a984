import Throttling.Proofs.AllOrNothing
import Mathlib.Algebra.BigOperators.Ring.List
import Mathlib.Algebra.Order.BigOperators.Group.List

/-!
# Charges in bounded arithmetic

Three products on the way from a cost to the units that a bucket is charged are held at the 64-bit
limit: the cost times the quantity, its multiple by the scale, and the bucket units. So a charge can
come out too small (`units_amount_le`). Mostly it is denied then, since no bucket holds more than
the limit; but a bucket of the largest capacity grants it, and so does any bucket with the room if
the scale brings a product that was held at the limit back into range. When a granted draw is exact
is said requirement by requirement (`granted_draw_exact_iff`): below the largest capacity it is
enough that no scale shrinks a product out of range.
-/

set_option autoImplicit false

namespace Throttling

/-! ## Throttles of operations -/

/-- Made to meter operations, and then put through any operations of its bucket. -/
def Throttle.MetersOperations (t : Throttle) : Prop :=
  ∃ name rate burstMillis start ops, Throttle.operations name rate burstMillis = .ok start ∧
    t = { start with bucket := start.bucket.run ops }

namespace Throttle.MetersOperations

variable {t : Throttle}

theorem wellFormed (meters : t.MetersOperations) : t.bucket.WellFormed := by
  obtain ⟨_, _, _, start, ops, made, rfl⟩ := meters
  obtain ⟨_, _, -, w⟩ := (Built.operations made).fresh
  exact Bucket.run_wellFormed w ops

/-- Bucket units are micro-operations. -/
theorem units_eq (meters : t.MetersOperations) (amount : Nat) :
    t.units amount = Word.saturate64 (1000 * amount) := by
  obtain ⟨_, _, _, start, ops, made, rfl⟩ := meters
  rw [(Throttle.operations_eq_ok made).2, Throttle.units, Nat.mul_comm]
  rfl

end Throttle.MetersOperations

/-! ## Exact amounts -/

namespace Tariff

/-- What a quantity costs at a scale in unbounded arithmetic: rounded down, and at least one
milli-operation. -/
def exactAmount (milliOps quantity : Nat) (scale : ScaleFactor) : Nat :=
  max 1 (milliOps * quantity * scale.numerator / scale.denominator)

def exactAt (tariff : Tariff) (quantity : Nat) (scale : ScaleFactor) (position : Nat) : Nat :=
  ((tariff.requirements.filter fun r => r.throttle = position).map fun r =>
    exactAmount r.milliOps quantity scale).sum

/-- What a cost comes to in bucket units is in range, and so is the product that is scaled, unless
the scale hides the excess. -/
def InRange (milliOps quantity : Nat) (scale : ScaleFactor) : Prop :=
  1000 * exactAmount milliOps quantity scale ≤ Word.max64 ∧
    (milliOps * quantity ≤ Word.max64 ∨
      Word.max64 * scale.numerator / scale.denominator =
        milliOps * quantity * scale.numerator / scale.denominator)

instance (milliOps quantity : Nat) (scale : ScaleFactor) :
    Decidable (InRange milliOps quantity scale) := inferInstanceAs (Decidable (_ ∧ _))

/-- A draw has recorded the exact amount of each requirement, and has taken a thousand times what
the requirements come to from the units free at each position. -/
structure ChargesExactly (tariff : Tariff) (throttles : List Throttle) (now : Timestamp)
    (quantity : Nat) (scale : ScaleFactor) (draw : Draw) : Prop where
  recorded : draw.usages = tariff.requirements.map fun r =>
    ⟨.operations r.throttle, exactAmount r.milliOps quantity scale, tariff.generation⟩
  charged : ∀ position t, throttles[position]? = some t →
    ∃ t', draw.throttles[position]? = some t' ∧
      t'.free now + 1000 * tariff.exactAt quantity scale position = t.free now

variable {milliOps quantity : Nat} {scale : ScaleFactor} {t : Throttle}

/-- Saturation makes an amount smaller, if anything. -/
theorem amount_le_exactAmount (milliOps quantity : Nat) (scale : ScaleFactor) :
    amount milliOps quantity scale ≤ exactAmount milliOps quantity scale := by
  refine max_le_max_left 1 ?_
  calc
    Word.saturate64 (Word.saturate64 (milliOps * quantity) * scale.numerator / scale.denominator)
      ≤ Word.saturate64 (milliOps * quantity) * scale.numerator / scale.denominator :=
        Word.saturate64_le_self _
    _ ≤ milliOps * quantity * scale.numerator / scale.denominator :=
        Nat.div_le_div_right (Nat.mul_le_mul_right _ (Word.saturate64_le_self _))

theorem units_amount_le (meters : t.MetersOperations) (milliOps quantity : Nat)
    (scale : ScaleFactor) :
    t.units (amount milliOps quantity scale) ≤ 1000 * exactAmount milliOps quantity scale := by
  rw [meters.units_eq]
  exact (Word.saturate64_le_self _).trans
    (Nat.mul_le_mul_left _ (amount_le_exactAmount milliOps quantity scale))

/-- A product beyond the limit, held at it, is still more than one at any scale. -/
theorem one_lt_max64_scaled (scale : ScaleFactor) :
    1 < Word.max64 * scale.numerator / scale.denominator := by
  have small := scale.denominator_lt
  refine (Nat.le_div_iff_mul_le scale.denominator_pos).mpr ?_
  calc
    2 * scale.denominator ≤ Word.max64 * 1 := by
      unfold UInt32.size at small
      unfold Word.max64
      omega
    _ ≤ Word.max64 * scale.numerator := Nat.mul_le_mul_left _ scale.numerator_pos

/-- An amount whose exact value is small is held at no limit but that of the product. -/
theorem amount_of_exactAmount_le (small : exactAmount milliOps quantity scale ≤ Word.max64) :
    amount milliOps quantity scale =
      max 1 (Word.saturate64 (milliOps * quantity) * scale.numerator / scale.denominator) := by
  have scaled := Nat.div_le_div_right (c := scale.denominator)
    (Nat.mul_le_mul_right scale.numerator (Word.saturate64_le_self (milliOps * quantity)))
  have held := Word.saturate64_of_le (scaled.trans ((le_max_right _ _).trans small))
  unfold amount ScaleFactor.apply
  rw [held]

/-- An amount and its bucket units are exact if all that matters is in range, and only then. -/
theorem exact_iff_inRange (meters : t.MetersOperations) :
    (amount milliOps quantity scale = exactAmount milliOps quantity scale ∧
      t.units (amount milliOps quantity scale) = 1000 * exactAmount milliOps quantity scale) ↔
      InRange milliOps quantity scale := by
  rw [meters.units_eq]
  constructor
  · rintro ⟨same, units⟩
    rw [same] at units
    have inRange : 1000 * exactAmount milliOps quantity scale ≤ Word.max64 :=
      units ▸ Word.saturate64_le _
    refine ⟨inRange, or_iff_not_imp_left.mpr fun beyond => ?_⟩
    rw [amount_of_exactAmount_le (by omega), exactAmount, Word.saturate64,
      Nat.min_eq_right (Nat.le_of_not_le beyond)] at same
    have := one_lt_max64_scaled scale
    omega
  · rintro ⟨inRange, product⟩
    have same : amount milliOps quantity scale = exactAmount milliOps quantity scale := by
      rw [amount_of_exactAmount_le (by omega), exactAmount]
      by_cases within : milliOps * quantity ≤ Word.max64
      · rw [Word.saturate64_of_le within]
      · rw [Word.saturate64, Nat.min_eq_right (Nat.le_of_not_le within),
          product.resolve_left within]
    rw [same]
    exact ⟨rfl, Word.saturate64_of_le inRange⟩

/-- Units below the limit show that all is in range, unless a product beyond it was scaled down. -/
theorem inRange_of_units_lt (meters : t.MetersOperations)
    (below : t.units (amount milliOps quantity scale) < Word.max64)
    (mild : milliOps * quantity ≤ Word.max64 ∨ scale.denominator ≤ scale.numerator) :
    InRange milliOps quantity scale := by
  rw [meters.units_eq, amount, ScaleFactor.apply] at below
  have product : milliOps * quantity ≤ Word.max64 := by
    refine mild.elim id fun growing => ?_
    by_contra beyond
    rw [Word.saturate64, Word.saturate64, Word.saturate64,
      Nat.min_eq_right (Nat.le_of_not_le beyond)] at below
    have kept : Word.max64 ≤ Word.max64 * scale.numerator / scale.denominator :=
      (Nat.le_div_iff_mul_le scale.denominator_pos).mpr (Nat.mul_le_mul_left _ growing)
    omega
  rw [Word.saturate64_of_le product, Word.saturate64, Word.saturate64] at below
  refine ⟨?_, Or.inl product⟩
  unfold exactAmount
  omega

/-! ## Granted draws -/

variable {tariff : Tariff} {throttles : List Throttle} {now : Timestamp}

/-- What a granted draw takes from the units free on a throttle. -/
theorem free_of_granted (w : Portion.AllWellFormed throttles)
    (granted : (tariff.draw throttles now quantity scale).granted = true) {position : Nat}
    (found : throttles[position]? = some t) :
    ∃ t', (tariff.draw throttles now quantity scale).throttles[position]? = some t' ∧
      t'.free now + tariff.costAt quantity scale position t = t.free now := by
  rw [draw_eq] at granted ⊢
  dsimp only at granted ⊢
  have fits := ((Portion.drawAll_granted_iff w).mp granted).unitsOn_le found
  refine ⟨_, Portion.getElem?_drawAll_granted w granted found, ?_⟩
  rw [← unitsOn_portions]
  split
  · rw [Throttle.free_claim]
    exact Nat.sub_add_cancel fits
  · rename_i unnamed
    rw [Portion.unitsOn_of_not_names (Bool.eq_false_iff.mpr unnamed), Nat.add_zero]

theorem recorded_of_granted (granted : (tariff.draw throttles now quantity scale).granted = true) :
    (tariff.draw throttles now quantity scale).usages = tariff.requirements.map fun r =>
      ⟨.operations r.throttle, amount r.milliOps quantity scale, tariff.generation⟩ := by
  rw [usages_of_granted granted, portions, List.map_map]
  rfl

/-- Each requirement of a granted draw names a throttle that has the cost of it free. -/
theorem units_le_of_granted (w : Portion.AllWellFormed throttles)
    (granted : (tariff.draw throttles now quantity scale).granted = true) {r : Requirement}
    (member : r ∈ tariff.requirements) :
    ∃ t, throttles[r.throttle]? = some t ∧
      t.units (amount r.milliOps quantity scale) ≤ t.free now := by
  rw [draw_eq, Portion.drawAll_granted_iff w, fit_portions_iff] at granted
  obtain ⟨t, found, -, fits⟩ := granted r member
  refine ⟨t, found, le_trans ?_ fits⟩
  refine List.single_le_sum (fun _ _ => Nat.zero_le _) _ (List.mem_map.mpr ⟨r, ?_, rfl⟩)
  exact List.mem_filter.mpr ⟨member, decide_eq_true rfl⟩

/-- What a granted draw has recorded and charged exactly was in range. -/
theorem ChargesExactly.inRange (meters : ∀ t ∈ throttles, t.MetersOperations)
    (granted : (tariff.draw throttles now quantity scale).granted = true)
    (exact : tariff.ChargesExactly throttles now quantity scale
      (tariff.draw throttles now quantity scale)) :
    ∀ r ∈ tariff.requirements, InRange r.milliOps quantity scale := by
  intro r member
  have w : Portion.AllWellFormed throttles := fun t member => (meters t member).wellFormed
  obtain ⟨t, found, -⟩ := units_le_of_granted w granted member
  have own := meters t (List.mem_of_getElem? found)
  have recorded := exact.recorded
  rw [recorded_of_granted granted] at recorded
  have same := congrArg Usage.amount (List.map_inj_left.mp recorded r member)
  refine (exact_iff_inRange own).mp ⟨same, ?_⟩
  -- no charge is too large, so none is too small if they add up
  by_contra differ
  obtain ⟨t', after, cost⟩ := free_of_granted w granted found
  obtain ⟨t'', after', charged⟩ := exact.charged r.throttle t found
  obtain rfl := Option.some.inj (after.symm.trans after')
  have less : tariff.costAt quantity scale r.throttle t <
      1000 * tariff.exactAt quantity scale r.throttle := by
    rw [costAt, exactAt, ← List.sum_map_mul_left]
    refine List.sum_lt_sum _ _ (fun s _ => units_amount_le own _ _ _) ⟨r, ?_, ?_⟩
    · exact List.mem_filter.mpr ⟨member, decide_eq_true rfl⟩
    · exact lt_of_le_of_ne (units_amount_le own _ _ _) differ
  omega

/-- A granted draw records and charges exactly what is in range. -/
theorem chargesExactly_of_inRange (meters : ∀ t ∈ throttles, t.MetersOperations)
    (granted : (tariff.draw throttles now quantity scale).granted = true)
    (inRange : ∀ r ∈ tariff.requirements, InRange r.milliOps quantity scale) :
    tariff.ChargesExactly throttles now quantity scale
      (tariff.draw throttles now quantity scale) := by
  have w : Portion.AllWellFormed throttles := fun t member => (meters t member).wellFormed
  refine ⟨?_, fun position t found => ?_⟩
  · rw [recorded_of_granted granted]
    refine List.map_congr_left fun r member => ?_
    obtain ⟨t, found, -⟩ := units_le_of_granted w granted member
    have own := meters t (List.mem_of_getElem? found)
    rw [((exact_iff_inRange own).mpr (inRange r member)).1]
  · have own := meters t (List.mem_of_getElem? found)
    obtain ⟨t', after, cost⟩ := free_of_granted w granted found
    have sums : tariff.costAt quantity scale position t =
        1000 * tariff.exactAt quantity scale position := by
      rw [costAt, exactAt, ← List.sum_map_mul_left]
      refine congrArg List.sum (List.map_congr_left fun r member => ?_)
      exact ((exact_iff_inRange own).mpr (inRange r (List.mem_of_mem_filter member))).2
    exact ⟨t', after, sums ▸ cost⟩

/-- A granted draw on throttles of operations records and charges exact amounts if all that matters
is in range for each requirement, and only then. For that it is enough that the throttles named are
below the largest capacity, and that no product is both out of range and scaled down. -/
theorem granted_draw_exact_iff (meters : ∀ t ∈ throttles, t.MetersOperations) (tariff : Tariff)
    (now : Timestamp) (quantity : Nat) (scale : ScaleFactor)
    (granted : (tariff.draw throttles now quantity scale).granted = true) :
    (tariff.ChargesExactly throttles now quantity scale
        (tariff.draw throttles now quantity scale) ↔
      ∀ r ∈ tariff.requirements, InRange r.milliOps quantity scale) ∧
    ((∀ r ∈ tariff.requirements, (∀ t ∈ throttles[r.throttle]?, t.capacity < Word.max64) ∧
        (r.milliOps * quantity ≤ Word.max64 ∨ scale.denominator ≤ scale.numerator)) →
      tariff.ChargesExactly throttles now quantity scale
        (tariff.draw throttles now quantity scale)) := by
  refine ⟨⟨ChargesExactly.inRange meters granted, chargesExactly_of_inRange meters granted⟩,
    fun mild => chargesExactly_of_inRange meters granted fun r member => ?_⟩
  have w : Portion.AllWellFormed throttles := fun t member => (meters t member).wellFormed
  obtain ⟨t, found, fits⟩ := units_le_of_granted w granted member
  obtain ⟨below, product⟩ := mild r member
  have free : t.free now ≤ t.capacity := Nat.sub_le _ _
  have room := below t found
  exact inRange_of_units_lt (meters t (List.mem_of_getElem? found)) (by omega) product

/-- Three units at five halves. The first throttle is named twice, for 7500 and for 2497
milli-operations. -/
theorem granted_draw_exact_iff_scaled :
    let limits : Throttle := ⟨"limits", .operations, 10000, 1000000000, 1000,
      .new 10000000 1000000000⟩
    let creations : Throttle := ⟨"creations", .operations, 2000, 1000000000, 1000,
      .new 2000000 1000000000⟩
    let throttles : List Throttle :=
      [{ limits with bucket := limits.bucket.run [.draw ⟨100, 0⟩ 500000] }, creations]
    let tariff : Tariff := ⟨.cryptoCreate, [⟨0, 1000⟩, ⟨1, 0⟩, ⟨0, 333⟩], 7⟩
    let scale : ScaleFactor := ⟨5, 2, by decide, by decide, by decide, by decide⟩
    let draw := tariff.draw throttles ⟨100, 50000000⟩ 3 scale
    (∀ t ∈ throttles, t.MetersOperations) ∧ draw.granted = true ∧
      (∀ r ∈ tariff.requirements, InRange r.milliOps 3 scale) ∧
      tariff.ChargesExactly throttles ⟨100, 50000000⟩ 3 scale draw ∧
      draw.usages =
        [⟨.operations 0, 7500, 7⟩, ⟨.operations 1, 1, 7⟩, ⟨.operations 0, 2497, 7⟩] := by
  intro limits creations throttles tariff scale draw
  have meters : ∀ t ∈ throttles, t.MetersOperations := by
    refine List.forall_mem_cons.mpr ⟨⟨"limits", 10000, 1000, limits, _, rfl, rfl⟩, ?_⟩
    exact List.forall_mem_singleton.mpr ⟨"creations", 2000, 1000, creations, [], rfl, rfl⟩
  have granted : draw.granted = true := by decide
  obtain ⟨exact_iff, mild⟩ :=
    granted_draw_exact_iff meters tariff ⟨100, 50000000⟩ 3 scale granted
  have exact := mild (by decide)
  exact ⟨meters, granted, exact_iff.mp exact, exact, by decide⟩

/-- Neither condition is enough without the other. A bucket of the largest capacity grants a charge
that is held at the limit; and at the smallest scale a product that was held at the limit is charged
as half of what it is. -/
theorem granted_draw_can_be_undercharged :
    (¬ ∀ {throttles : List Throttle}, (∀ t ∈ throttles, t.MetersOperations) →
      ∀ (tariff : Tariff) (now : Timestamp) (quantity : Nat) (scale : ScaleFactor),
        (∀ r ∈ tariff.requirements, r.milliOps * quantity ≤ Word.max64) →
          (tariff.draw throttles now quantity scale).granted = true →
            tariff.ChargesExactly throttles now quantity scale
              (tariff.draw throttles now quantity scale)) ∧
    ¬ ∀ {throttles : List Throttle}, (∀ t ∈ throttles, t.MetersOperations) →
      ∀ (tariff : Tariff) (now : Timestamp) (quantity : Nat) (scale : ScaleFactor),
        (∀ t ∈ throttles, t.capacity < Word.max64) →
          (tariff.draw throttles now quantity scale).granted = true →
            tariff.ChargesExactly throttles now quantity scale
              (tariff.draw throttles now quantity scale) := by
  constructor
  · intro exact
    let largest : Throttle := ⟨"largest", .operations, Word.max64, 1000000, 1000,
      .new Word.max64 1000000⟩
    have meters : ∀ t ∈ [largest], t.MetersOperations :=
      List.forall_mem_singleton.mpr ⟨"largest", Word.max64, 1, largest, [], rfl, rfl⟩
    let tariff : Tariff := ⟨.contractCall, [⟨0, 2 ^ 60⟩], 1⟩
    have charged := (exact meters tariff ⟨100, 0⟩ 1 .one (by decide) (by decide +kernel)).charged
    obtain ⟨t', after, drop⟩ := charged 0 largest rfl
    have emptied : (tariff.draw [largest] ⟨100, 0⟩ 1 .one).throttles[0]?.map (·.free ⟨100, 0⟩) =
        some 0 := by decide +kernel
    rw [after, Option.map_some] at emptied
    rw [Option.some.inj emptied] at drop
    exact absurd drop (by decide +kernel)
  · intro exact
    let calls : Throttle := ⟨"calls", .operations, 10000000000, 1000000000, 1000,
      .new 10000000000000 1000000000⟩
    let smallest : ScaleFactor := ⟨1, 2 ^ 32 - 1, by decide, by decide, by decide, by decide⟩
    have meters : ∀ t ∈ [calls], t.MetersOperations :=
      List.forall_mem_singleton.mpr ⟨"calls", 10000000000, 1000, calls, [], rfl, rfl⟩
    have recorded := (exact meters ⟨.contractCall, [⟨0, 2 ^ 63⟩], 1⟩ ⟨100, 0⟩ 4 smallest
      (by decide) (by decide +kernel)).recorded
    exact absurd recorded (by decide +kernel)

end Tariff

end Throttling
