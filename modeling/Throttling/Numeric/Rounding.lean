/-!
# Rounding a quotient

Rates and percentages are shown as rounded quotients. `roundDiv` rounds a
quotient of natural numbers to the nearest natural number and sends an exact
half to the even neighbour.
-/

set_option autoImplicit false

namespace Throttling.Numeric

/-- The natural number nearest to `num / den`, an exact half going to the even one. -/
def roundDiv (num den : Nat) : Nat :=
  let quotient := num / den
  let twice := 2 * (num % den)
  if twice < den then quotient
  else if den < twice then quotient + 1
  else if quotient % 2 = 0 then quotient else quotient + 1

/-- A rounded quotient is at most half a unit away, and even if it is just half a unit away. -/
theorem roundDiv_nearest (num : Nat) {den : Nat} (positive : 0 < den) :
    2 * (roundDiv num den * den) ≤ 2 * num + den ∧
      2 * num ≤ 2 * (roundDiv num den * den) + den ∧
      (2 * (roundDiv num den * den) = 2 * num + den ∨
        2 * num = 2 * (roundDiv num den * den) + den → roundDiv num den % 2 = 0) := by
  have whole := Nat.div_add_mod' num den
  have rest := Nat.mod_lt num positive
  have up : (num / den + 1) * den = num / den * den + den := Nat.succ_mul _ _
  unfold roundDiv
  simp only
  split
  · omega
  · split
    · omega
    · split <;> omega

def twoPlaces (num den : Nat) : String :=
  let hundredths := roundDiv (num * 100) den
  let cents := hundredths % 100
  toString (hundredths / 100) ++ "." ++ (if cents < 10 then "0" else "") ++ toString cents

end Throttling.Numeric
