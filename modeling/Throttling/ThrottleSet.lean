import Throttling.Definitions
import Throttling.Tariff

/-!
# Compiled throttle sets

All throttles of operations that come from one definitions document, and the
cost of each functionality on them. Malformed buckets are left out and reported;
the positions of the others are counted without them. A set is built in one
piece and replaced in one piece. A functionality that no bucket lists has no
tariff, which is not the same as a tariff that costs nothing.
-/

set_option autoImplicit false

namespace Throttling

structure ThrottleSet where
  /-- Throttles in bucket order. -/
  throttles : List Throttle
  /-- The requirements of all functionalities, in bucket order. -/
  costs : List (Functionality × Requirement)
  /-- Number of ways the capacity was split. -/
  split : Nat
  /-- Stamped on every usage drawn from the set. -/
  generation : Nat
  deriving DecidableEq, Repr, Inhabited

namespace ThrottleSet

def empty (generation : Nat) : ThrottleSet := ⟨[], [], 1, generation⟩

def accepted (definitions : Definitions) (split : Nat) : List CompiledBucket :=
  definitions.buckets.filterMap fun b => (b.compile split).toOption

/-- The names of the buckets of a document that do not compile, with the reasons. -/
def rejected (definitions : Definitions) (split : Nat) : List (String × Error) :=
  definitions.buckets.filterMap fun b =>
    match b.compile split with
    | .ok _ => none
    | .error e => some (b.name, e)

/-- The requirements that a compiled bucket imposes from its position. -/
def requirementsOf (bucket : CompiledBucket) (position : Nat) :
    List (Functionality × Requirement) :=
  bucket.costs.map fun cost => (cost.1, ⟨position, cost.2⟩)

def compile (definitions : Definitions) (split generation : Nat) : ThrottleSet :=
  let buckets := accepted definitions split
  { throttles := buckets.map (·.throttle)
    costs := buckets.zipIdx.flatMap fun entry => requirementsOf entry.1 entry.2
    split := max split 1
    generation }

/-- The requirements of a functionality, in bucket order. -/
def requirements (s : ThrottleSet) (function : Functionality) : List Requirement :=
  s.costs.filterMap fun cost => if cost.1 = function then some cost.2 else none

/-- The tariff of a functionality, if any bucket lists it. -/
def tariff? (s : ThrottleSet) (function : Functionality) : Option Tariff :=
  match s.requirements function with
  | [] => none
  | requirements => some ⟨function, requirements, s.generation⟩

def functionalities (s : ThrottleSet) : List Functionality :=
  (Functionality.all.filter fun f => (s.tariff? f).isSome).mergeSort
    fun a b => decide (a.name ≤ b.name)

structure Draw where
  granted : Bool
  set : ThrottleSet
  usages : List Usage
  deriving DecidableEq, Repr

/-- Draw a quantity of a functionality; `none` if it has no tariff. -/
def draw? (s : ThrottleSet) (function : Functionality) (now : Timestamp) (quantity : Nat)
    (scale : ScaleFactor) : Option Draw :=
  (s.tariff? function).map fun tariff =>
    let draw := tariff.draw s.throttles now quantity scale
    ⟨draw.granted, { s with throttles := draw.throttles }, draw.usages⟩

def refund (s : ThrottleSet) (function : Functionality) (quantity : Nat) :
    Except Error ThrottleSet :=
  match s.tariff? function with
  | none => .error (.noRequirements function)
  | some tariff => .ok { s with throttles := tariff.refund s.throttles quantity }

def throttlesFor (s : ThrottleSet) (function : Functionality) : List Throttle :=
  match s.tariff? function with
  | none => []
  | some tariff => tariff.throttlesIn s.throttles

def mapThrottles (s : ThrottleSet) (f : Throttle → Throttle) : ThrottleSet :=
  { s with throttles := s.throttles.map f }

def commit (s : ThrottleSet) : ThrottleSet := s.mapThrottles Throttle.commit

def rollback (s : ThrottleSet) : ThrottleSet := s.mapThrottles Throttle.rollback

def describe (s : ThrottleSet) : List String :=
  s.functionalities.filterMap fun f =>
    (s.tariff? f).map fun tariff => f.name ++ ": " ++ tariff.describe s.throttles

end ThrottleSet

end Throttling
