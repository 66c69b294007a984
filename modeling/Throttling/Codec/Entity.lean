import Throttling.Account
import Throttling.Document.Reader
import Throttling.Functionality
import Throttling.ScaleFactor
import Throttling.Timestamp

/-!
# Times, accounts, tokens and names in documents

Reading and writing of the small values that transactions, usage records and
configuration are made of. A time is read as it stands: its nanoseconds are not
carried over into seconds.
-/

set_option autoImplicit false

namespace Throttling

namespace Timestamp

def reader : Reader Timestamp :=
  .record ["seconds", "nanos"] fun fs => do
    return ⟨← fs.required "seconds" .int64, ← fs.required "nanos" .nat32⟩

def toDocument (t : Timestamp) : Document :=
  .ofMembers [("seconds", .integer t.seconds), ("nanos", .ofNat t.nanos)]

end Timestamp

namespace ScaleFactor

def reader : Reader ScaleFactor := .textOf parse?

def toDocument (s : ScaleFactor) : Document := .ofString s.render

end ScaleFactor

namespace Functionality

def reader : Reader Functionality := .variant ofName? fun _ => none

def toDocument (f : Functionality) : Document := .ofString f.name

end Functionality

namespace AccountRef

def reader : Reader AccountRef :=
  .variant (fun _ => none) fun
    | "Num" => some fun f d => (Reader.nat64 f d).map .number
    | "Alias" => some fun f d => (Reader.bytes f d).map .aliased
    | _ => none

def toDocument : AccountRef → Document
  | number num => .ofVariant "Num" (.ofNat num)
  | aliased bytes => .ofVariant "Alias" (.ofBytes bytes)

end AccountRef

namespace AccountId

def reader : Reader AccountId :=
  .record ["shard", "realm", "account"] fun fs => do
    return {
      shard := ← fs.required "shard" .nat64
      realm := ← fs.required "realm" .nat64
      account := ← fs.required "account" AccountRef.reader }

def toDocument (a : AccountId) : Document :=
  .ofMembers [("shard", .ofNat a.shard), ("realm", .ofNat a.realm),
    ("account", a.account.toDocument)]

end AccountId

namespace TokenId

def reader : Reader TokenId :=
  .record ["shard", "realm", "num"] fun fs => do
    return {
      shard := ← fs.required "shard" .nat64
      realm := ← fs.required "realm" .nat64
      num := ← fs.required "num" .nat64 }

def toDocument (t : TokenId) : Document :=
  .ofMembers [("shard", .ofNat t.shard), ("realm", .ofNat t.realm), ("num", .ofNat t.num)]

end TokenId

end Throttling
