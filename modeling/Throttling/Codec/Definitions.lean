import Throttling.Codec.Entity
import Throttling.Definitions
import Throttling.Json.Parser

/-!
# Definition documents

Only the name of a bucket has to be given; every other field is zero or empty
when it is left out.
-/

set_option autoImplicit false

namespace Throttling

namespace GroupDefinition

def reader : Reader GroupDefinition :=
  .record ["opsPerSec", "milliOpsPerSec", "operations"] fun fs => do
    return {
      opsPerSec := ← fs.defaulted "opsPerSec" .nat64 0
      milliOpsPerSec := ← fs.defaulted "milliOpsPerSec" .nat64 0
      operations := ← fs.defaulted "operations" (.list Functionality.reader) [] }

def toDocument (g : GroupDefinition) : Document :=
  .ofMembers [("opsPerSec", .ofNat g.opsPerSec), ("milliOpsPerSec", .ofNat g.milliOpsPerSec),
    ("operations", .ofList Functionality.toDocument g.operations)]

end GroupDefinition

namespace BucketDefinition

def reader : Reader BucketDefinition :=
  .record ["name", "burstPeriod", "burstPeriodMs", "throttleGroups"] fun fs => do
    return {
      name := ← fs.required "name" .text
      burstPeriod := ← fs.defaulted "burstPeriod" .nat64 0
      burstPeriodMs := ← fs.defaulted "burstPeriodMs" .nat64 0
      groups := ← fs.defaulted "throttleGroups" (.list GroupDefinition.reader) [] }

def toDocument (b : BucketDefinition) : Document :=
  .ofMembers [("name", .ofString b.name), ("burstPeriod", .ofNat b.burstPeriod),
    ("burstPeriodMs", .ofNat b.burstPeriodMs),
    ("throttleGroups", .ofList GroupDefinition.toDocument b.groups)]

end BucketDefinition

namespace Definitions

def reader : Reader Definitions :=
  .record ["buckets"] fun fs => do
    return ⟨← fs.defaulted "buckets" (.list BucketDefinition.reader) []⟩

def toDocument (d : Definitions) : Document :=
  .ofMembers [("buckets", .ofList BucketDefinition.toDocument d.buckets)]

def ofJsonBytes (bytes : List UInt8) : Except Error Definitions :=
  match Json.readBytes reader bytes with
  | some d => .ok d
  | none => .error .invalidDefinitions

def ofJson (text : String) : Except Error Definitions := ofJsonBytes text.toUTF8.toList

end Definitions

end Throttling
