/-!
# Limits of the stored numbers

Quantities in this library are natural numbers and integers. A stored quantity
has 64 bits, so the rules that could leave that range say what happens at its
edge: they either saturate at the limit or are refused. The limits and the two
kinds of step are defined here, once.
-/

set_option autoImplicit false

namespace Throttling.Word

def max64 : Nat := 0xFFFFFFFFFFFFFFFF

/-- Largest unsigned 128-bit quantity, the range of intermediate products. -/
def max128 : Nat := 0xFFFFFFFFFFFFFFFFFFFFFFFFFFFFFFFF

def maxSigned64 : Nat := 0x7FFFFFFFFFFFFFFF

def minSigned64 : Int := -0x8000000000000000

/-- A quantity held at the 64-bit limit. -/
def saturate64 (n : Nat) : Nat := min n max64

def saturate128 (n : Nat) : Nat := min n max128

def saturateSigned64 (i : Int) : Int := max minSigned64 (min i maxSigned64)

/-- A quantity that must fit 64 bits; `none` when it does not. -/
def checked64 (n : Nat) : Option Nat := if n ≤ max64 then some n else none

/-- The low 64 bits of a quantity. -/
def low64 (n : Nat) : Nat := n % 0x10000000000000000

theorem saturate64_le (n : Nat) : saturate64 n ≤ max64 := Nat.min_le_right _ _

theorem saturate64_le_self (n : Nat) : saturate64 n ≤ n := Nat.min_le_left _ _

theorem saturate64_of_le {n : Nat} (h : n ≤ max64) : saturate64 n = n := Nat.min_eq_left h

theorem saturate128_of_le {n : Nat} (h : n ≤ max128) : saturate128 n = n := Nat.min_eq_left h

theorem low64_of_le {n : Nat} (h : n ≤ max64) : low64 n = n :=
  Nat.mod_eq_of_lt (Nat.lt_of_le_of_lt h (by decide))

theorem checked64_eq_some_iff {n m : Nat} : checked64 n = some m ↔ n ≤ max64 ∧ n = m := by
  unfold checked64
  split
  · simp_all
  · simp_all [Nat.not_le_of_gt]

end Throttling.Word
