import Throttling.Numeric.Rounding

/-!
# Double-precision quotients

Percentages are reported as IEEE 754 binary64 numbers, computed one rounded
operation at a time. A `Double` here is a non-negative number `mantissa · 2 ^
exponent` of at most 53 significant bits. The operations round the exact result
to the nearest such number, a tie going to the even mantissa. The quantities of
this library stay far from the ends of the exponent range, so neither overflow
nor subnormal numbers arise.
-/

set_option autoImplicit false

namespace Throttling.Numeric

/-- A non-negative binary64 number; zero has mantissa zero, any other a mantissa of 53 bits. -/
structure Double where
  mantissa : Nat
  exponent : Int
  deriving DecidableEq, Repr, Inhabited

namespace Double

/-- The least mantissa of 53 bits. -/
def minMantissa : Nat := 0x10000000000000

def zero : Double := ⟨0, 0⟩

/-- `num / den` with a power of two taken out: the quotient of the result, times `2 ^ exponent`,
is the quotient that was given. -/
def scale (num den : Nat) (exponent : Int) : Nat × Nat :=
  if exponent < 0 then (num <<< (-exponent).toNat, den) else (num, den <<< exponent.toNat)

/-- The double nearest to `num / den`. -/
def ofRatio (num den : Nat) : Double :=
  if num = 0 ∨ den = 0 then zero
  else
    let guess : Int := (num.log2 : Int) - den.log2 - 52
    let (n, d) := scale num den guess
    let exponent := if n < minMantissa * d then guess - 1 else guess
    let (n, d) := scale num den exponent
    let mantissa := roundDiv n d
    if mantissa = 2 * minMantissa then ⟨minMantissa, exponent + 1⟩ else ⟨mantissa, exponent⟩

def ofNat (n : Nat) : Double := ofRatio n 1

def num (x : Double) : Nat := x.mantissa <<< x.exponent.toNat

def den (x : Double) : Nat := 1 <<< (-x.exponent).toNat

def mul (x y : Double) : Double := ofRatio (x.num * y.num) (x.den * y.den)

/-- The rounded quotient; zero for a zero divisor, which no caller passes. -/
def div (x y : Double) : Double := ofRatio (x.num * y.den) (x.den * y.num)

/-- The binary64 encoding, sign bit clear. -/
def bits (x : Double) : Nat :=
  if x.mantissa = 0 then 0 else (x.exponent + 1075).toNat * minMantissa + (x.mantissa - minMantissa)

def twoPlaces (x : Double) : String := Numeric.twoPlaces x.num x.den

end Double

end Throttling.Numeric
