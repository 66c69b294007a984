/-!
# Decimal numerals

Reading a run of ASCII digits as a natural number. Other digits of Unicode are
no digits here.
-/

set_option autoImplicit false

namespace Throttling.Text

/-- Value of a digit in a base up to sixteen, either case of letter. -/
def digitValue? (base : Nat) (c : Char) : Option Nat :=
  let value :=
    if '0' ≤ c ∧ c ≤ '9' then some (c.toNat - '0'.toNat)
    else if 'a' ≤ c ∧ c ≤ 'f' then some (c.toNat - 'a'.toNat + 10)
    else if 'A' ≤ c ∧ c ≤ 'F' then some (c.toNat - 'A'.toNat + 10)
    else none
  value.filter (· < base)

/-- Reads on from a value that the digits before stand for. -/
def numeralFrom? (base value : Nat) : List Char → Option Nat
  | [] => some value
  | c :: cs => do numeralFrom? base (value * base + (← digitValue? base c)) cs

def numeral? (base : Nat) : List Char → Option Nat
  | [] => none
  | cs => numeralFrom? base 0 cs

/-- A numeral that may have a plus sign in front. -/
def signedNumeral? : List Char → Option Nat
  | '+' :: cs => numeral? 10 cs
  | cs => numeral? 10 cs

end Throttling.Text
