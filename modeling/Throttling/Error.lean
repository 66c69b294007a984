import Throttling.Ethereum
import Throttling.Functionality
import Throttling.ResourceKind

/-!
# Errors

Being throttled is no error. The errors say why a configuration or an input
cannot be used; each has a cause, and one function words them all.
-/

set_option autoImplicit false

namespace Throttling

/-- Why a bucket definition does not compile. -/
inductive Malformed where
  /-- The bucket has no groups. -/
  | noGroups
  /-- The burst period has no length. -/
  | noBurst
  /-- A group's rate is zero, or less than one milli-operation for each part of the split. -/
  | unsplittableRate (rate split : Nat)
  /-- The rate shared by the groups, or a cost at that rate, is out of range. -/
  | rateOverflow
  /-- The capacity is out of range. -/
  | capacityOverflow (rate burstMillis : Nat)
  /-- The bucket cannot hold a single operation of a group. -/
  | costAboveCapacity (rate : Nat)
  /-- A functionality is listed twice. -/
  | repeated (function : Functionality)
  deriving DecidableEq, Repr

def Malformed.message : Malformed → String
  | noGroups => "no throttle groups"
  | noBurst => "burst period is zero"
  | unsplittableRate rate split =>
    "group rate of " ++ toString rate ++ " mtps cannot be split " ++ toString split ++ " ways"
  | rateOverflow => "logical rate overflows"
  | capacityOverflow rate burstMillis =>
    "capacity of " ++ toString rate ++ " mtps over " ++ toString burstMillis ++ "ms overflows"
  | costAboveCapacity rate =>
    "a single " ++ toString rate ++ " mtps operation exceeds the bucket capacity"
  | repeated function => function.name ++ " appears more than once"

inductive Unschedulable where
  /-- There is no transaction to schedule. -/
  | missingTransaction
  /-- The functionality is a query, or schedules a transaction itself. -/
  | notSchedulable (function : Functionality)
  /-- The body does not create a schedule. -/
  | missingBody
  deriving DecidableEq, Repr

def Unschedulable.message : Unschedulable → String
  | missingTransaction => "missing scheduled body"
  | notSchedulable function => function.name ++ " cannot be scheduled"
  | missingBody => "missing schedule create body"

inductive Error where
  | malformedBucket (bucket : String) (cause : Malformed)
  | notConfigured (kind : ResourceKind)
  | noRequirements (function : Functionality)
  | invalidScaleFactor (text : String)
  /-- Configuration that cannot be read or written. -/
  | invalidConfig
  /-- A definitions document that cannot be read. -/
  | invalidDefinitions
  | unschedulable (cause : Unschedulable)
  | undecodable (cause : Ethereum.DecodeError)
  deriving DecidableEq, Repr

def Error.message : Error → String
  | malformedBucket bucket cause => "Bucket '" ++ bucket ++ "' is malformed: " ++ cause.message
  | notConfigured kind => "The " ++ kind.name ++ " throttle has not been configured yet"
  | noRequirements function => "No throttle requirements are defined for " ++ function.name
  | invalidScaleFactor text =>
    "Invalid scale factor '" ++ text ++ "', expected '<numerator>:<denominator>'"
  | invalidConfig => "Failed to parse configuration"
  | invalidDefinitions => "Failed to parse throttle definitions"
  | unschedulable cause => "Scheduled transaction cannot be classified: " ++ cause.message
  | undecodable cause =>
    "Ethereum transaction payload could not be decoded: " ++ cause.message

end Throttling
