/-!
# What a throttle meters
-/

set_option autoImplicit false

namespace Throttling

/-- The resource a throttle meters: operations, contract gas, the payload bytes of oversized
transactions, or the duration of contract operations, each per second. -/
inductive ResourceKind where
  | operations | gas | bytes | opsDuration
  deriving DecidableEq, Repr, Inhabited

namespace ResourceKind

def name : ResourceKind → String
  | operations => "TPS"
  | gas => "Gas"
  | bytes => "Bytes"
  | opsDuration => "OpsDuration"

/-- What one unit is called in the description of a throttle. -/
def unit : ResourceKind → String
  | operations => "ops"
  | gas => "gas"
  | bytes => "bytes"
  | opsDuration => "ops duration"

end ResourceKind

end Throttling
