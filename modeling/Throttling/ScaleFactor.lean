import Throttling.Error
import Throttling.Text.Blank
import Throttling.Text.Digits
import Throttling.Word

/-!
# Scale factors

A scale factor is a positive rational `numerator : denominator` that multiplies
the cost of a requirement. Both parts have 32 bits and neither is zero. In text
they stand around the first colon, each with an optional plus sign and any
amount of blank space around it.
-/

set_option autoImplicit false

namespace Throttling

/-- A positive rational multiplier with parts of 32 bits. -/
structure ScaleFactor where
  numerator : Nat
  denominator : Nat
  numerator_pos : 0 < numerator
  numerator_lt : numerator < UInt32.size
  denominator_pos : 0 < denominator
  denominator_lt : denominator < UInt32.size
  deriving DecidableEq, Repr

namespace ScaleFactor

def one : ScaleFactor := ⟨1, 1, by decide, by decide, by decide, by decide⟩

instance : Inhabited ScaleFactor := ⟨one⟩

/-- The factor of two parts, if neither is zero and both have 32 bits. -/
def ofParts? (numerator denominator : Nat) : Option ScaleFactor :=
  if h : (0 < numerator ∧ numerator < UInt32.size) ∧ 0 < denominator ∧ denominator < UInt32.size then
    some ⟨numerator, denominator, h.1.1, h.1.2, h.2.1, h.2.2⟩
  else none

/-- The canonical text: both parts in decimal around a colon. -/
def render (s : ScaleFactor) : String := toString s.numerator ++ ":" ++ toString s.denominator

/-- Reads a factor: the text is split at its first colon, and each part is trimmed and read as a
decimal numeral with an optional plus sign. -/
def parse? (text : String) : Option ScaleFactor :=
  let left := text.toList.takeWhile (· != ':')
  match text.toList.dropWhile (· != ':') with
  | [] => none
  | _ :: right => do
    ofParts? (← Text.signedNumeral? (Text.trim left)) (← Text.signedNumeral? (Text.trim right))

def ofParts (numerator denominator : Nat) : Except Error ScaleFactor :=
  match ofParts? numerator denominator with
  | some s => .ok s
  | none => .error (.invalidScaleFactor (toString numerator ++ ":" ++ toString denominator))

def parse (text : String) : Except Error ScaleFactor :=
  match parse? text with
  | some s => .ok s
  | none => .error (.invalidScaleFactor text)

/-- A nominal cost scaled, rounded down, at least one and held at the 64-bit limit. -/
def apply (s : ScaleFactor) (nominal : Nat) : Nat :=
  max 1 (Word.saturate64 (nominal * s.numerator / s.denominator))

end ScaleFactor

end Throttling
