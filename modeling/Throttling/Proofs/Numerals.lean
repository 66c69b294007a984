import Throttling.Text.Blank
import Throttling.Text.Digits
import Mathlib.Data.List.DropRight

/-!
# Decimal numerals in text

A numeral is a run of ASCII digits. With a plus sign before it or not, and blank characters around
it, it is what the readers of `Throttling.Text` accept after trimming (`signedNumeral?_trim_iff`).
Numbers in decimal read back.
-/

set_option autoImplicit false

namespace Throttling.Text

/-! ## Digits -/

theorem isDigit_iff (c : Char) : c.isDigit = true ↔ 48 ≤ c.toNat ∧ c.toNat ≤ 57 := by
  rw [Char.isDigit, Bool.and_eq_true, decide_eq_true_eq, decide_eq_true_eq]
  exact and_congr UInt32.le_iff_toNat_le UInt32.le_iff_toNat_le

theorem digitValue?_ten (c : Char) :
    digitValue? 10 c = if c.isDigit then some (c.toNat - '0'.toNat) else none := by
  have decimal : ('0' ≤ c ∧ c ≤ '9') ↔ c.isDigit = true := by
    rw [isDigit_iff]
    exact and_congr UInt32.le_iff_toNat_le UInt32.le_iff_toNat_le
  unfold digitValue?
  by_cases digit : c.isDigit = true
  · have small : c.toNat - '0'.toNat < 10 := by
      have range := (isDigit_iff c).mp digit
      change c.toNat - 48 < 10
      omega
    rw [if_pos (decimal.mpr digit), if_pos digit]
    exact Option.filter_some_pos (decide_eq_true small)
  · -- letters are digits only of larger bases
    rw [if_neg (mt decimal.mp digit), if_neg digit]
    split
    · simp
    · split <;> simp

/-- Digits are read on from a value as digits behind those that the value stands for. -/
theorem numeralFrom?_ten (cs : List Char) (value : Nat) :
    numeralFrom? 10 value cs =
      if cs.all Char.isDigit then some (Nat.ofDigitChars 10 cs value) else none := by
  induction cs generalizing value with
  | nil => rfl
  | cons c cs ih =>
    rw [numeralFrom?, digitValue?_ten, Nat.ofDigitChars_cons, Nat.mul_comm 10, List.all_cons]
    by_cases decimal : c.isDigit = true
    · rw [if_pos decimal, decimal, Bool.true_and]
      exact ih _
    · rw [if_neg decimal, Bool.eq_false_iff.mpr decimal, Bool.false_and]
      rfl

structure IsNumeral (cs : List Char) : Prop where
  nonempty : cs ≠ []
  digits : ∀ c ∈ cs, c.isDigit = true

theorem numeral?_eq_some_iff {cs : List Char} {n : Nat} :
    numeral? 10 cs = some n ↔ IsNumeral cs ∧ n = Nat.ofDigitChars 10 cs 0 := by
  cases cs with
  | nil => exact iff_of_false nofun fun h => h.1.nonempty rfl
  | cons c cs =>
    change numeralFrom? 10 0 (c :: cs) = some n ↔ _
    rw [numeralFrom?_ten]
    by_cases digits : (c :: cs).all Char.isDigit = true
    · rw [if_pos digits, Option.some_inj, eq_comm]
      exact (and_iff_right ⟨List.cons_ne_nil _ _, List.all_eq_true.mp digits⟩).symm
    · rw [if_neg digits]
      exact iff_of_false nofun fun h => digits (List.all_eq_true.mpr h.1.digits)

/-- A number in decimal is a numeral. -/
theorem isNumeral_toDigits (n : Nat) : IsNumeral (Nat.toDigits 10 n) :=
  ⟨Nat.toDigits_ne_nil, fun _ => Nat.isDigit_of_mem_toDigits (by decide) (by decide)⟩

/-! ## Signs and blanks -/

/-- A numeral, with a plus sign in front or not. -/
inductive Signed : List Char → Nat → Prop where
  | plain {digits : List Char} (numeral : IsNumeral digits) :
      Signed digits (Nat.ofDigitChars 10 digits 0)
  | plus {digits : List Char} (numeral : IsNumeral digits) :
      Signed ('+' :: digits) (Nat.ofDigitChars 10 digits 0)

theorem signedNumeral?_eq_some_iff {cs : List Char} {n : Nat} :
    signedNumeral? cs = some n ↔ Signed cs n := by
  constructor
  · intro read
    unfold signedNumeral? at read
    split at read
    · obtain ⟨numeral, rfl⟩ := numeral?_eq_some_iff.mp read
      exact .plus numeral
    · obtain ⟨numeral, rfl⟩ := numeral?_eq_some_iff.mp read
      exact .plain numeral
  · rintro (numeral | numeral)
    · unfold signedNumeral?
      split
      · cases numeral.digits '+' List.mem_cons_self
      · exact numeral?_eq_some_iff.mpr ⟨numeral, rfl⟩
    · exact numeral?_eq_some_iff.mpr ⟨numeral, rfl⟩

theorem not_isBlank_of_isDigit {c : Char} (digit : c.isDigit = true) : isBlank c = false := by
  have range := (isDigit_iff c).mp digit
  simp [isBlank, blankRanges]
  omega

/-- A signed numeral has no blank characters. -/
theorem Signed.not_isBlank {cs : List Char} {n : Nat} (signed : Signed cs n) :
    cs ≠ [] ∧ ∀ c ∈ cs, isBlank c = false := by
  cases signed with
  | plain numeral =>
    exact ⟨numeral.nonempty, fun c member => not_isBlank_of_isDigit (numeral.digits c member)⟩
  | plus numeral =>
    refine ⟨List.cons_ne_nil _ _, List.forall_mem_cons.mpr ⟨by decide, fun c member => ?_⟩⟩
    exact not_isBlank_of_isDigit (numeral.digits c member)

/-- Nothing is dropped in front of a character that is not blank. -/
private theorem dropWhile_solid {core after : List Char} (nonempty : core ≠ [])
    (solid : ∀ c ∈ core, isBlank c = false) :
    (core ++ after).dropWhile isBlank = core ++ after := by
  obtain ⟨c, core, rfl⟩ := List.exists_cons_of_ne_nil nonempty
  exact List.dropWhile_cons_of_neg (Bool.eq_false_iff.mp (solid c List.mem_cons_self))

/-- Blank characters around a text without any are trimmed off. -/
theorem trim_append {before core after : List Char} (blank : ∀ c ∈ before, isBlank c = true)
    (blank' : ∀ c ∈ after, isBlank c = true) (nonempty : core ≠ [])
    (solid : ∀ c ∈ core, isBlank c = false) : trim (before ++ core ++ after) = core := by
  have reversed : core.reverse.dropWhile isBlank = core.reverse := by
    have whole : (core.reverse ++ []).dropWhile isBlank = core.reverse ++ [] :=
      dropWhile_solid (List.reverse_ne_nil_iff.mpr nonempty) fun c member =>
        solid c (List.mem_reverse.mp member)
    rwa [List.append_nil] at whole
  rw [trim, List.append_assoc, List.dropWhile_append_of_pos blank, dropWhile_solid nonempty solid,
    List.reverse_append,
    List.dropWhile_append_of_pos fun c member => blank' c (List.mem_reverse.mp member), reversed,
    List.reverse_reverse]

/-- What is trimmed off a text is blank. -/
theorem exists_trim (cs : List Char) :
    ∃ before after, cs = before ++ trim cs ++ after ∧ (∀ c ∈ before, isBlank c = true) ∧
      ∀ c ∈ after, isBlank c = true := by
  refine ⟨cs.takeWhile isBlank, (cs.dropWhile isBlank).rtakeWhile isBlank, ?_,
    fun c => List.mem_takeWhile_imp, fun c => List.mem_rtakeWhile_imp⟩
  have ends : trim cs ++ (cs.dropWhile isBlank).rtakeWhile isBlank = cs.dropWhile isBlank :=
    List.rdropWhile_append_rtakeWhile
  rw [List.append_assoc, ends, List.takeWhile_append_dropWhile]

/-- A numeral in text: a sign or none, digits, and any blank characters around. -/
inductive Spaced : List Char → Nat → Prop where
  | mk {before core after : List Char} {n : Nat} (blank : ∀ c ∈ before, isBlank c = true)
      (blank' : ∀ c ∈ after, isBlank c = true) (signed : Signed core n) :
      Spaced (before ++ core ++ after) n

/-- A number in decimal is a numeral in text that stands for it. -/
theorem spaced_toDigits (n : Nat) : Spaced (Nat.toDigits 10 n) n := by
  have signed : Signed (Nat.toDigits 10 n) (Nat.ofDigitChars 10 (Nat.toDigits 10 n) 0) :=
    .plain (isNumeral_toDigits n)
  rw [Nat.ofDigitChars_ten_toDigits] at signed
  have spaced : Spaced ([] ++ Nat.toDigits 10 n ++ []) n := .mk nofun nofun signed
  rwa [List.nil_append, List.append_nil] at spaced

/-- After trimming a text is read as a number exactly if it is a numeral among blank characters. -/
theorem signedNumeral?_trim_iff {cs : List Char} {n : Nat} :
    signedNumeral? (trim cs) = some n ↔ Spaced cs n := by
  rw [signedNumeral?_eq_some_iff]
  constructor
  · intro signed
    obtain ⟨before, after, whole, blank, blank'⟩ := exists_trim cs
    rw [whole]
    exact .mk blank blank' signed
  · rintro ⟨blank, blank', signed⟩
    obtain ⟨nonempty, solid⟩ := signed.not_isBlank
    rwa [trim_append blank blank' nonempty solid]

end Throttling.Text
