import Throttling.Text.Digits

/-!
# Hexadecimal octets

Octets as pairs of hexadecimal digits. Writing uses lower-case letters; reading
takes either case.
-/

set_option autoImplicit false

namespace Throttling.Text

def hexPair (b : UInt8) : List Char := [Nat.digitChar (b.toNat / 16), Nat.digitChar (b.toNat % 16)]

def hex (bytes : List UInt8) : String := String.ofList (bytes.flatMap hexPair)

/-- Octets of a hexadecimal text; `none` if it has an odd length or another character. -/
def unhex? : List Char → Option (List UInt8)
  | [] => some []
  | high :: low :: cs => do
    let value := (← digitValue? 16 high) * 16 + (← digitValue? 16 low)
    return UInt8.ofNat value :: (← unhex? cs)
  | _ => none

end Throttling.Text
