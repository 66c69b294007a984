import Throttling.Rlp
import Throttling.Text.Hex

/-!
# Ethereum transaction payloads

The fields of an Ethereum transaction that bear on throttling: the gas limit, the
recipient, and whether value is transferred. The envelope is an RLP list, alone
for an untyped transaction and after a type octet for a typed one, and it spans
the payload to its end. The kinds differ in the number of fields before the gas
limit. What follows the call data is not looked at.
-/

set_option autoImplicit false

namespace Throttling

def evmAddressSize : Nat := 20

namespace Ethereum

inductive DecodeError where
  /-- Nothing to decode. -/
  | emptyPayload
  /-- The first octet is neither a known type nor the start of a list. -/
  | unsupportedType (first : UInt8)
  /-- The envelope ends before the payload does. -/
  | trailingBytes
  /-- An item of the envelope is malformed. -/
  | malformedItem (error : Rlp.Error)
  /-- The payload could not be decoded, so the accounts it creates are not known. -/
  | unknownCreations
  deriving DecidableEq, Repr

def DecodeError.message : DecodeError → String
  | emptyPayload => "empty payload"
  | unsupportedType first => "unsupported transaction type 0x" ++ Text.hex [first]
  | trailingBytes => "trailing bytes after transaction"
  | malformedItem error => error.message
  | unknownCreations => "implicit creations unknown"

/-- The fields that bear on throttling. -/
structure Fields where
  gasLimit : Nat
  /-- The recipient; `none` when a contract is created. -/
  recipient : Option (List UInt8)
  /-- Whether a value other than zero is transferred. -/
  transfersValue : Bool
  deriving DecidableEq, Repr

/-- The number of fields before the gas limit, and the octets of the envelope. -/
def envelope (data : List UInt8) : Except DecodeError (Nat × List UInt8) :=
  match data with
  | [] => .error .emptyPayload
  | first :: rest =>
    if first = 0x01 then .ok (3, rest)
    else if first = 0x02 then .ok (4, rest)
    else if 0xc0 ≤ first.toNat then .ok (2, data)
    else .error (.unsupportedType first)

/-- The recipient that an address field names: nobody, or twenty octets. -/
def recipient (field : List UInt8) : Except Rlp.Error (Option (List UInt8)) :=
  if field = [] then .ok none
  else if field.length = evmAddressSize then .ok (some field)
  else .error .unexpectedLength

/-- Reads the fields from the payload of the envelope. Call data must be there, unread. -/
def readFields (leading : Nat) (bytes : List UInt8) : Except Rlp.Error Fields := do
  let bytes ← Rlp.skipStrings leading bytes
  let (gas, bytes) ← Rlp.nextString bytes
  let gasLimit ← Rlp.number64 gas
  let (address, bytes) ← Rlp.nextString bytes
  let recipient ← recipient address
  let (value, bytes) ← Rlp.nextString bytes
  let _ ← Rlp.nextString bytes
  return { gasLimit, recipient, transfersValue := value.any (· != 0) }

def decode (data : List UInt8) : Except DecodeError Fields := do
  let (leading, body) ← envelope data
  let item ← (Rlp.nextItem body).mapError .malformedItem
  if item.shape = .string then throw (.malformedItem .unexpectedString)
  if item.rest ≠ [] then throw .trailingBytes
  (readFields leading item.payload).mapError .malformedItem

end Ethereum

end Throttling
