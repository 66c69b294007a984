import Throttling.Ethereum

/-!
# Accounts, tokens and aliases

Accounts are referred to by number or by alias, both within a shard and a realm.
The shape of an alias tells whether a transfer to it can create an account: a
serialized public key and an EVM address can, any other alias cannot. A
twenty-octet alias may also spell the number of an entity of some shard and
realm, and then it names an account that exists.
-/

set_option autoImplicit false

namespace Throttling

inductive AccountRef where
  | number (num : Nat)
  | aliased (bytes : List UInt8)
  deriving DecidableEq, Repr

structure AccountId where
  shard : Nat
  realm : Nat
  account : AccountRef
  deriving DecidableEq, Repr

namespace AccountId

def ofNumber (num : Nat) : AccountId := ⟨0, 0, .number num⟩

def ofAlias (bytes : List UInt8) : AccountId := ⟨0, 0, .aliased bytes⟩

def number? (a : AccountId) : Option Nat :=
  match a.account with
  | .number num => some num
  | .aliased _ => none

def alias? (a : AccountId) : Option (List UInt8) :=
  match a.account with
  | .number _ => none
  | .aliased bytes => some bytes

def isAlias (a : AccountId) : Bool := a.alias?.isSome

/-- Shard, realm and number with points between; an alias in hexadecimal. -/
def render (a : AccountId) : String :=
  let place := toString a.shard ++ "." ++ toString a.realm ++ "."
  match a.account with
  | .number num => place ++ toString num
  | .aliased bytes => place ++ "0x" ++ Text.hex bytes

end AccountId

structure TokenId where
  shard : Nat
  realm : Nat
  num : Nat
  deriving DecidableEq, Repr

namespace TokenId

def ofNumber (num : Nat) : TokenId := ⟨0, 0, num⟩

/-- Shard, realm and number with points between. -/
def render (t : TokenId) : String :=
  toString t.shard ++ "." ++ toString t.realm ++ "." ++ toString t.num

end TokenId

namespace Alias

/-- Whether an alias has the size of an EVM address. -/
def hasAddressSize (bytes : List UInt8) : Bool := bytes.length == evmAddressSize

/-- Whether an alias is a serialized public key: Ed25519 with 32 octets, or compressed ECDSA
secp256k1 with 33 octets of which the first gives the parity. -/
def isSerializedKey : List UInt8 → Bool
  | 0x12 :: 0x20 :: key => key.length == 32
  | 0x3a :: 0x21 :: parity :: key => key.length == 32 && (parity == 0x02 || parity == 0x03)
  | _ => false

/-- Whether an alias spells an entity number of a shard and realm: four octets of shard, eight of
realm, then the number. A shard of more than 32 bits cannot be spelt. -/
def isEntityNumber (bytes : List UInt8) (shard realm : Nat) : Bool :=
  hasAddressSize bytes && Rlp.bigEndian (bytes.take 4) == shard &&
    Rlp.bigEndian ((bytes.drop 4).take 8) == realm

/-- Whether a transfer to an alias of this shape can create an account. -/
def canSeedAccount (bytes : List UInt8) : Bool := isSerializedKey bytes || hasAddressSize bytes

end Alias

end Throttling
