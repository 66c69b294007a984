import Throttling.ScaleFactor
import Throttling.Throttle

/-!
# Tariffs

A tariff lists what one unit of a functionality costs on each throttle it draws
from. The throttles stand in a list that the tariff refers to by position. A
draw on a tariff is all or nothing: when one throttle denies its part, the parts
granted before it are revoked. A draw that is granted leaves one record of usage
for each part, so that it can be reversed later.
-/

set_option autoImplicit false

namespace Throttling

open Numeric (Double)

/-- A throttle to draw from and the milli-operations that one unit costs there. -/
structure Requirement where
  throttle : Nat
  milliOps : Nat
  deriving DecidableEq, Repr, Inhabited

inductive ThrottleRef where
  /-- The throttle of operations at a position. -/
  | operations (index : Nat)
  | gas | bytes | opsDuration
  deriving DecidableEq, Repr

/-- What one decision drew from one throttle, and the generation of the set it drew against. -/
structure Usage where
  throttle : ThrottleRef
  amount : Nat
  generation : Nat
  deriving DecidableEq, Repr

/-- The requirements of one functionality, in drawing order. -/
structure Tariff where
  function : Functionality
  requirements : List Requirement
  generation : Nat
  deriving DecidableEq, Repr

structure Portion where
  throttle : Nat
  amount : Nat
  deriving DecidableEq, Repr

namespace Portion

/-- Draw a portion from its throttle; `none` if that throttle denies it or does not exist. -/
def draw? (p : Portion) (throttles : List Throttle) (now : Timestamp) : Option (List Throttle) := do
  let throttle ← (← throttles[p.throttle]?).draw? now p.amount
  return throttles.set p.throttle throttle

def revoke (p : Portion) (throttles : List Throttle) : List Throttle :=
  throttles.modify p.throttle (·.revoke p.amount)

/-- Draw portions in turn. When one is denied, those before it are revoked, the latest first. -/
def drawAll (now : Timestamp) : List Portion → List Throttle → Bool × List Throttle
  | [], throttles => (true, throttles)
  | p :: ps, throttles =>
    match p.draw? throttles now with
    | none => (false, throttles)
    | some drawn =>
      match drawAll now ps drawn with
      | (true, result) => (true, result)
      | (false, result) => (false, p.revoke result)

end Portion

structure Draw where
  granted : Bool
  throttles : List Throttle
  /-- One record for each portion of a granted draw. -/
  usages : List Usage
  deriving DecidableEq, Repr

namespace Tariff

def amount (milliOps quantity : Nat) (scale : ScaleFactor) : Nat :=
  scale.apply (Word.saturate64 (milliOps * quantity))

def portions (t : Tariff) (quantity : Nat) (scale : ScaleFactor) : List Portion :=
  t.requirements.map fun r => ⟨r.throttle, amount r.milliOps quantity scale⟩

def usage (t : Tariff) (p : Portion) : Usage := ⟨.operations p.throttle, p.amount, t.generation⟩

/-- Draw a quantity, scaled, from every throttle of the tariff. -/
def draw (t : Tariff) (throttles : List Throttle) (now : Timestamp) (quantity : Nat)
    (scale : ScaleFactor) : Draw :=
  let portions := t.portions quantity scale
  match Portion.drawAll now portions throttles with
  | (true, throttles) => ⟨true, throttles, portions.map t.usage⟩
  | (false, throttles) => ⟨false, throttles, []⟩

/-- Give back what a quantity claimed. -/
def refund (t : Tariff) (throttles : List Throttle) (quantity : Nat) : List Throttle :=
  t.requirements.foldl
    (fun throttles r =>
      throttles.modify r.throttle (·.refund (Word.saturate64 (r.milliOps * quantity))))
    throttles

def throttlesIn (t : Tariff) (throttles : List Throttle) : List Throttle :=
  t.requirements.filterMap fun r => throttles[r.throttle]?

/-- The rate that one requirement leaves to the functionality. -/
def describePart (throttle : Throttle) (milliOps : Nat) : String :=
  let perSecond := (Double.ofNat throttle.rate).div (.ofNat (max milliOps 1))
  perSecond.twoPlaces ++ " tps (" ++ throttle.name ++ ")"

def describe (t : Tariff) (throttles : List Throttle) : String :=
  let parts := t.requirements.filterMap fun r =>
    throttles[r.throttle]?.map (describePart · r.milliOps)
  "min(" ++ ", ".intercalate parts ++ ")"

end Tariff

end Throttling
