import Throttling.Bucket
import Mathlib.Algebra.Order.Field.Basic
import Mathlib.Algebra.Order.Field.Power
import Mathlib.Tactic.FieldSimp
import Mathlib.Tactic.Linarith
import Mathlib.Tactic.NormNum
import Mathlib.Tactic.Ring

/-!
# Correct rounding

The double of a quotient is the nearest there is, and of two that are equally near the one with the
even mantissa (`Double.ofRatio_rounds`). A percentage is rounded twice, after the product and after
the quotient. While the capacity and a hundred times what is used are below `2 ^ 53`, the product is
exact, and the percentage is the double nearest to the true one (`Bucket.percent_rounds`).
-/

set_option autoImplicit false

namespace Throttling.Numeric

/-! ## Whole multiples of a unit -/

section Grid

variable {q u : ℚ} {m k : ℤ}

/-- Two whole multiples of a unit are at least a unit apart. -/
private theorem unit_le_of_ne (unit_pos : 0 < u) (other : k ≠ m) :
    u ≤ |q - k * u| + |q - m * u| := by
  have apart : (1 : ℚ) ≤ |((m - k : ℤ) : ℚ)| := by
    rw [← Int.cast_abs]
    exact_mod_cast Int.one_le_abs (sub_ne_zero.mpr other.symm)
  have between : ((m - k : ℤ) : ℚ) * u = (q - k * u) - (q - m * u) := by
    push_cast
    ring
  calc u ≤ |((m - k : ℤ) : ℚ)| * u := le_mul_of_one_le_left unit_pos.le apart
    _ = |(q - k * u) - (q - m * u)| := by rw [← between, abs_mul, abs_of_pos unit_pos]
    _ ≤ |q - k * u| + |q - m * u| := abs_sub _ _

private theorem nearest_of_near (unit_pos : 0 < u) (near : |q - m * u| ≤ u / 2) (k : ℤ) :
    |q - m * u| ≤ |q - k * u| := by
  by_cases same : k = m
  · rw [same]
  · have := unit_le_of_ne unit_pos same (q := q)
    linarith

/-- Only half-way between two multiples is another one as near. -/
private theorem half_of_tie (unit_pos : 0 < u) (near : |q - m * u| ≤ u / 2) (other : k ≠ m)
    (tie : |q - k * u| = |q - m * u|) : |q - m * u| = u / 2 := by
  have := unit_le_of_ne unit_pos other (q := q)
  linarith

end Grid

/-- What `roundDiv` does, said of the quotient. -/
theorem abs_div_sub_roundDiv (num : Nat) {den : Nat} (positive : 0 < den) :
    |(num / den : ℚ) - roundDiv num den| ≤ 1 / 2 ∧
      (|(num / den : ℚ) - roundDiv num den| = 1 / 2 → roundDiv num den % 2 = 0) := by
  obtain ⟨above, below, even⟩ := roundDiv_nearest num positive
  have den_pos : (0 : ℚ) < den := Nat.cast_pos.mpr positive
  have apart : |(num / den : ℚ) - roundDiv num den| =
      |(num - roundDiv num den * den : ℚ)| / den := by
    rw [← abs_of_pos den_pos, ← abs_div, abs_of_pos den_pos, sub_div,
      mul_div_cancel_right₀ _ den_pos.ne']
  rw [apart]
  constructor
  · rw [div_le_iff₀ den_pos, abs_le]
    have above' : (2 * (roundDiv num den * den) : ℚ) ≤ 2 * num + den := by exact_mod_cast above
    have below' : (2 * num : ℚ) ≤ 2 * (roundDiv num den * den) + den := by exact_mod_cast below
    constructor <;> linarith
  · intro half
    rw [div_eq_iff den_pos.ne'] at half
    refine even ?_
    rcases abs_choice (num - roundDiv num den * den : ℚ) with sign | sign
    · right
      have : (2 * num : ℚ) = 2 * (roundDiv num den * den) + den := by linarith
      exact_mod_cast this
    · left
      have : (2 * (roundDiv num den * den) : ℚ) = 2 * num + den := by linarith
      exact_mod_cast this

namespace Double

/-- The exact value. -/
def value (x : Double) : ℚ := x.mantissa * 2 ^ x.exponent

/-- The mantissa is zero or has 53 bits. -/
def Valid (x : Double) : Prop :=
  x.mantissa = 0 ∨ minMantissa ≤ x.mantissa ∧ x.mantissa < 2 * minMantissa

/-- The double `x` is `q` rounded to the nearest, half-way to the even mantissa. -/
structure Rounds (q : ℚ) (x : Double) : Prop where
  valid : x.Valid
  nearest : ∀ y : Double, y.Valid → |q - x.value| ≤ |q - y.value|
  even : ∀ y : Double, y.Valid → y.value ≠ x.value → |q - y.value| = |q - x.value| →
    x.mantissa % 2 = 0

/-- A valid double is a whole multiple of `2 ^ e`, or it is below all of 53 bits that are. -/
private theorem multiple_or_below {y : Double} (valid : y.Valid) (e : ℤ) :
    (∃ k : ℤ, y.value = k * 2 ^ e) ∨ y.value < minMantissa * 2 ^ e := by
  rcases le_or_gt e y.exponent with fine | coarse
  · left
    obtain ⟨n, shift⟩ := Int.le.dest fine
    refine ⟨y.mantissa * 2 ^ n, ?_⟩
    rw [value, ← shift, zpow_add₀ two_ne_zero, zpow_natCast]
    push_cast
    ring
  · right
    have bits : (y.mantissa : ℚ) < 2 * minMantissa := by
      have : y.mantissa < 2 * minMantissa := by
        rcases valid with zero | ⟨-, below⟩
        · rw [zero]
          decide
        · exact below
      exact_mod_cast this
    calc y.value < 2 * minMantissa * 2 ^ y.exponent :=
        mul_lt_mul_of_pos_right bits (zpow_pos two_pos _)
      _ = minMantissa * 2 ^ (y.exponent + 1) := by
        rw [zpow_add_one₀ two_ne_zero]
        ring
      _ ≤ minMantissa * 2 ^ e :=
        mul_le_mul_of_nonneg_left (zpow_le_zpow_right₀ one_le_two coarse) (Nat.cast_nonneg _)

theorem rounds_of_near {q : ℚ} {e : ℤ} {m : ℕ} {x : Double} (valid : x.Valid)
    (same : x.value = m * 2 ^ e) (large : minMantissa * 2 ^ e ≤ q)
    (near : |q - m * 2 ^ e| ≤ 2 ^ e / 2)
    (even : |q - m * 2 ^ e| = 2 ^ e / 2 → x.mantissa % 2 = 0) : Rounds q x := by
  have unit_pos : (0 : ℚ) < 2 ^ e := zpow_pos two_pos e
  have near' : |q - ((m : ℤ) : ℚ) * 2 ^ e| ≤ 2 ^ e / 2 := near
  have below {y : Double} (small : y.value < minMantissa * 2 ^ e) :
      |q - x.value| < |q - y.value| := by
    have least : |q - m * 2 ^ e| ≤ |q - minMantissa * 2 ^ e| :=
      nearest_of_near unit_pos near' minMantissa
    rw [abs_of_nonneg (sub_nonneg.mpr large)] at least
    rw [same, abs_of_pos (by linarith : 0 < q - y.value)]
    linarith
  refine ⟨valid, fun y valid' => ?_, fun y valid' other tie => ?_⟩
  · rcases multiple_or_below valid' e with ⟨k, multiple⟩ | small
    · rw [same, multiple]
      exact nearest_of_near unit_pos near' k
    · exact (below small).le
  · rcases multiple_or_below valid' e with ⟨k, multiple⟩ | small
    · rw [same, multiple] at other tie
      refine even (half_of_tie unit_pos near' (fun equal => other ?_) tie)
      rw [equal, Int.cast_natCast]
    · exact absurd tie (below small).ne'

/-! ## Scaling -/

theorem scale_eq (num : Nat) {den : Nat} (positive : 0 < den) (e : ℤ) :
    0 < (scale num den e).2 ∧
      ((scale num den e).1 / (scale num den e).2 : ℚ) = num / den / 2 ^ e := by
  unfold scale
  split
  · rename_i negative
    obtain ⟨k, rfl⟩ : ∃ k : ℕ, e = -k := ⟨(-e).toNat, by omega⟩
    refine ⟨positive, ?_⟩
    simp only [neg_neg, Int.toNat_natCast, Nat.shiftLeft_eq, zpow_neg, zpow_natCast]
    push_cast
    rw [div_inv_eq_mul]
    ring
  · obtain ⟨k, rfl⟩ : ∃ k : ℕ, e = k := ⟨e.toNat, by omega⟩
    simp only [Int.toNat_natCast, Nat.shiftLeft_eq, zpow_natCast]
    refine ⟨Nat.mul_pos positive (Nat.two_pow_pos k), ?_⟩
    push_cast
    rw [div_div]

private theorem mul_two_pow_log2_lt (a : Nat) {b : Nat} (positive : 0 < b) :
    a * 2 ^ b.log2 < 2 * (b * 2 ^ a.log2) :=
  calc a * 2 ^ b.log2 ≤ a * b := Nat.mul_le_mul_left a (Nat.log2_self_le positive.ne')
    _ < 2 ^ (a.log2 + 1) * b := Nat.mul_lt_mul_of_pos_right Nat.lt_log2_self positive
    _ = 2 * (b * 2 ^ a.log2) := by ring

/-- The exponent is first guessed from the sizes of the two numbers; the guess is right, or one too
large. -/
private theorem guess_bounds {num den : Nat} (num_pos : 0 < num) (den_pos : 0 < den) :
    (minMantissa : ℚ) / 2 < num / den / 2 ^ ((num.log2 : ℤ) - den.log2 - 52) ∧
      (num / den / 2 ^ ((num.log2 : ℤ) - den.log2 - 52) : ℚ) < 2 * minMantissa := by
  have mantissa : (minMantissa : ℚ) = 2 ^ 52 := by norm_num [minMantissa]
  have den_cast : (0 : ℚ) < den := Nat.cast_pos.mpr den_pos
  have scaled : (num / den / 2 ^ ((num.log2 : ℤ) - den.log2 - 52) : ℚ) =
      minMantissa * (num * 2 ^ den.log2) / (den * 2 ^ num.log2) := by
    rw [zpow_sub₀ two_ne_zero, zpow_sub₀ two_ne_zero, zpow_natCast, zpow_natCast, mantissa]
    field_simp
  have product : (0 : ℚ) < den * 2 ^ num.log2 := by positivity
  have mantissa_pos : (0 : ℚ) < minMantissa := by rw [mantissa]; positivity
  have above : (den * 2 ^ num.log2 : ℚ) < 2 * (num * 2 ^ den.log2) := by
    exact_mod_cast mul_two_pow_log2_lt den num_pos
  have below : (num * 2 ^ den.log2 : ℚ) < 2 * (den * 2 ^ num.log2) := by
    exact_mod_cast mul_two_pow_log2_lt num den_pos
  rw [scaled, lt_div_iff₀ product, div_lt_iff₀ product]
  constructor
  · linarith [mul_lt_mul_of_pos_left above mantissa_pos]
  · linarith [mul_lt_mul_of_pos_left below mantissa_pos]

/-- What is rounded to the mantissa has 53 bits before its point. -/
private theorem exists_scaled {num den : Nat} (num_pos : 0 < num) (den_pos : 0 < den) :
    ∃ (e : ℤ) (n d : Nat), 0 < d ∧ (n / d : ℚ) = num / den / 2 ^ e ∧
      (minMantissa : ℚ) ≤ n / d ∧ (n / d : ℚ) < 2 * minMantissa ∧
        ofRatio num den = if roundDiv n d = 2 * minMantissa then ⟨minMantissa, e + 1⟩
          else ⟨roundDiv n d, e⟩ := by
  obtain ⟨low, high⟩ := guess_bounds num_pos den_pos
  set guess : ℤ := (num.log2 : ℤ) - den.log2 - 52 with guessed
  obtain ⟨d_pos, scaled⟩ := scale_eq num den_pos guess
  have d_cast : (0 : ℚ) < (scale num den guess).2 := Nat.cast_pos.mpr d_pos
  have nonzero : ¬ (num = 0 ∨ den = 0) := by omega
  by_cases small : (scale num den guess).1 < minMantissa * (scale num den guess).2
  · obtain ⟨d_pos', scaled'⟩ := scale_eq num den_pos (guess - 1)
    have below : (num / den / 2 ^ guess : ℚ) < minMantissa := by
      rw [← scaled, div_lt_iff₀ d_cast]
      exact_mod_cast small
    have twice : (num / den / 2 ^ (guess - 1) : ℚ) = 2 * (num / den / 2 ^ guess) := by
      rw [zpow_sub_one₀ two_ne_zero]
      field_simp
    refine ⟨guess - 1, _, _, d_pos', scaled', ?_, ?_, ?_⟩
    · rw [scaled', twice]
      linarith
    · rw [scaled', twice]
      linarith
    · simp only [ofRatio, if_neg nonzero, ← guessed, if_pos small]
  · have above : (minMantissa : ℚ) ≤ (scale num den guess).1 / (scale num den guess).2 := by
      rw [le_div_iff₀ d_cast]
      exact_mod_cast Nat.le_of_not_lt small
    refine ⟨guess, _, _, d_pos, scaled, above, by rwa [scaled], ?_⟩
    simp only [ofRatio, if_neg nonzero, ← guessed, if_neg small]

/-- Rounding may carry into a 54th bit, and the mantissa is then the least one. -/
private theorem carry_rounds {n d : Nat} (d_pos : 0 < d) (low : (minMantissa : ℚ) ≤ n / d)
    (high : (n / d : ℚ) < 2 * minMantissa) (e : ℤ) :
    Rounds (n / d * 2 ^ e) (if roundDiv n d = 2 * minMantissa then ⟨minMantissa, e + 1⟩
      else ⟨roundDiv n d, e⟩) := by
  obtain ⟨near, even⟩ := abs_div_sub_roundDiv n d_pos
  set m := roundDiv n d
  have unit_pos : (0 : ℚ) < 2 ^ e := zpow_pos two_pos e
  have distance : |(n / d * 2 ^ e : ℚ) - m * 2 ^ e| = |(n / d : ℚ) - m| * 2 ^ e := by
    rw [← sub_mul, abs_mul, abs_of_pos unit_pos]
  have large : (minMantissa * 2 ^ e : ℚ) ≤ n / d * 2 ^ e :=
    mul_le_mul_of_nonneg_right low unit_pos.le
  have close : |(n / d * 2 ^ e : ℚ) - m * 2 ^ e| ≤ 2 ^ e / 2 := by
    rw [distance]
    linarith [mul_le_mul_of_nonneg_right near unit_pos.le]
  have tie (half : |(n / d * 2 ^ e : ℚ) - m * 2 ^ e| = 2 ^ e / 2) : m % 2 = 0 := by
    refine even (mul_right_cancel₀ unit_pos.ne' ?_)
    rw [← distance, half]
    ring
  obtain ⟨near_below, near_above⟩ := abs_le.mp near
  by_cases carried : m = 2 * minMantissa
  · have least : minMantissa < 2 * minMantissa ∧ minMantissa % 2 = 0 := by decide
    rw [if_pos carried]
    refine rounds_of_near (Or.inr ⟨Nat.le_refl _, least.1⟩) ?_ large close fun _ => least.2
    rw [value, carried, zpow_add_one₀ two_ne_zero]
    push_cast
    ring
  · have m_low : (minMantissa : ℚ) < m + 1 := by linarith
    have m_high : (m : ℚ) < 2 * minMantissa + 1 := by linarith
    have bits : minMantissa ≤ m ∧ m ≤ 2 * minMantissa :=
      ⟨Nat.le_of_lt_succ (by exact_mod_cast m_low), Nat.le_of_lt_succ (by exact_mod_cast m_high)⟩
    rw [if_neg carried]
    exact rounds_of_near (Or.inr ⟨bits.1, Nat.lt_of_le_of_ne bits.2 carried⟩) rfl large close tie

/-- A double from a quotient is correctly rounded. -/
theorem ofRatio_rounds (num : Nat) {den : Nat} (den_pos : 0 < den) :
    Rounds (num / den) (ofRatio num den) := by
  rcases Nat.eq_zero_or_pos num with rfl | num_pos
  · have exact : ((0 : ℕ) / den : ℚ) - zero.value = 0 := by simp [value, zero]
    rw [ofRatio, if_pos (Or.inl rfl)]
    refine ⟨Or.inl rfl, fun y _ => ?_, fun y _ _ _ => rfl⟩
    rw [exact, abs_zero]
    exact abs_nonneg _
  · obtain ⟨e, n, d, d_pos, scaled, low, high, result⟩ := exists_scaled num_pos den_pos
    have quotient : (num / den : ℚ) = n / d * 2 ^ e := by
      rw [scaled, div_mul_cancel₀ _ (zpow_pos two_pos e).ne']
    rw [result, quotient]
    exact carry_rounds d_pos low high e

/-- Half-way between two doubles, the lower one has the even mantissa. -/
example : ofRatio (2 * (2 * minMantissa) + 2) 2 = ⟨minMantissa, 1⟩ := by decide +kernel

/-! ## Operations -/

variable {x y : Double}

theorem den_pos (x : Double) : 0 < x.den := by
  rw [den, Nat.one_shiftLeft]
  exact Nat.two_pow_pos _

theorem num_div_den (x : Double) : (x.num / x.den : ℚ) = x.value := by
  unfold num den value
  rcases le_or_gt 0 x.exponent with large | small
  · obtain ⟨k, exponent⟩ := Int.eq_ofNat_of_zero_le large
    simp [exponent, Nat.shiftLeft_eq]
  · obtain ⟨k, exponent⟩ : ∃ k : ℕ, x.exponent = -k := ⟨(-x.exponent).toNat, by omega⟩
    simp [exponent, Nat.shiftLeft_eq, div_eq_mul_inv]

theorem mul_rounds (x y : Double) : Rounds (x.value * y.value) (x.mul y) := by
  have rounds := ofRatio_rounds (x.num * y.num) (Nat.mul_pos x.den_pos y.den_pos)
  rw [Nat.cast_mul, Nat.cast_mul, mul_div_mul_comm, num_div_den, num_div_den] at rounds
  exact rounds

theorem div_rounds (x : Double) (divisor : y.value ≠ 0) :
    Rounds (x.value / y.value) (x.div y) := by
  have y_num : 0 < y.num := Nat.pos_of_ne_zero fun zero => divisor (by
    rw [← num_div_den, zero, Nat.cast_zero, zero_div])
  have rounds := ofRatio_rounds (x.num * y.den) (Nat.mul_pos x.den_pos y_num)
  rw [Nat.cast_mul, Nat.cast_mul, mul_div_mul_comm, num_div_den, ← inv_div, num_div_den,
    ← div_eq_mul_inv] at rounds
  exact rounds

/-- A double is rounded to itself. -/
theorem Rounds.value_eq {q : ℚ} (rounds : Rounds q x) (valid : y.Valid) (same : y.value = q) :
    x.value = q := by
  have none := rounds.nearest y valid
  rw [same, sub_self, abs_zero] at none
  exact (sub_eq_zero.mp (abs_nonpos_iff.mp none)).symm

/-- A number of at most 53 bits is a double. -/
theorem exists_valid {n : Nat} (small : n < 2 * minMantissa) :
    ∃ y : Double, y.Valid ∧ y.value = n := by
  rcases Nat.eq_zero_or_pos n with rfl | positive
  · exact ⟨zero, Or.inl rfl, by simp [value, zero]⟩
  have bits : n.log2 < 53 := (Nat.log2_lt positive.ne').mpr small
  obtain ⟨k, shift⟩ : ∃ k, n.log2 + k = 52 := Nat.le.dest (Nat.le_of_lt_succ bits)
  have least : minMantissa = 2 ^ n.log2 * 2 ^ k := by rw [← pow_add, shift]; rfl
  refine ⟨⟨n * 2 ^ k, -k⟩, Or.inr ⟨?_, ?_⟩, ?_⟩
  · rw [least]
    exact Nat.mul_le_mul_right _ (Nat.log2_self_le positive.ne')
  · rw [least, ← mul_assoc, ← pow_succ']
    exact Nat.mul_lt_mul_of_pos_right Nat.lt_log2_self (Nat.two_pow_pos k)
  · rw [value, Nat.cast_mul, Nat.cast_pow, Nat.cast_two, zpow_neg, zpow_natCast,
      mul_inv_cancel_right₀ (pow_ne_zero k two_ne_zero)]

theorem value_ofNat {n : Nat} (small : n < 2 * minMantissa) : (ofNat n).value = n := by
  have rounds := ofRatio_rounds n Nat.one_pos
  rw [Nat.cast_one, div_one] at rounds
  obtain ⟨y, valid, same⟩ := exists_valid small
  exact rounds.value_eq valid same

end Double

end Throttling.Numeric

namespace Throttling.Bucket

open Numeric (Double)

/-- The percentage is correctly rounded, if the numbers it is made of are doubles. -/
theorem percent_rounds {used capacity : Nat} (positive : 0 < capacity)
    (small : 100 * used < 2 * Double.minMantissa) (small' : capacity < 2 * Double.minMantissa) :
    (percent used capacity).Rounds (100 * used / capacity) := by
  have used_small : used < 2 * Double.minMantissa := by omega
  have product := Double.mul_rounds (.ofNat 100) (.ofNat used)
  have hundred : (Double.ofNat 100).value = (100 : ℕ) := Double.value_ofNat (by decide)
  rw [hundred, Double.value_ofNat used_small, ← Nat.cast_mul] at product
  obtain ⟨y, valid, same⟩ := Double.exists_valid small
  have exact := product.value_eq valid same
  have capacity_value := Double.value_ofNat small'
  have divisor : (Double.ofNat capacity).value ≠ 0 := by
    rw [capacity_value]
    exact Nat.cast_ne_zero.mpr positive.ne'
  have quotient := Double.div_rounds (.mul (.ofNat 100) (.ofNat used)) divisor
  rw [exact, capacity_value, Nat.cast_mul] at quotient
  rw [percent, if_neg positive.ne']
  exact quotient

end Throttling.Bucket
