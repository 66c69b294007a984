import Throttling.Codec.Entity
import Throttling.Transaction

/-!
# Transactions and queries in documents

What a transaction does is a variant named for its kind. Scheduled transactions
nest, so reading one recurses on the levels of nesting that are left; each
schedule takes two of them.
-/

set_option autoImplicit false

namespace Throttling

namespace AccountAmount

def reader : Reader AccountAmount :=
  .record ["account_id", "amount"] fun fs => do
    return ⟨← fs.required "account_id" AccountId.reader, ← fs.required "amount" .int64⟩

def toDocument (a : AccountAmount) : Document :=
  .ofMembers [("account_id", a.account.toDocument), ("amount", .integer a.amount)]

end AccountAmount

namespace NftTransfer

def reader : Reader NftTransfer :=
  .record ["sender", "receiver", "serial_number"] fun fs => do
    return {
      sender := ← fs.required "sender" AccountId.reader
      receiver := ← fs.optional "receiver" AccountId.reader
      serial := ← fs.required "serial_number" .int64 }

def toDocument (n : NftTransfer) : Document :=
  .ofMembers [("sender", n.sender.toDocument),
    ("receiver", .ofOption AccountId.toDocument n.receiver), ("serial_number", .integer n.serial)]

end NftTransfer

namespace TokenTransfers

def reader : Reader TokenTransfers :=
  .record ["token", "transfers", "nft_transfers"] fun fs => do
    return {
      token := ← fs.required "token" TokenId.reader
      transfers := ← fs.defaulted "transfers" (.list AccountAmount.reader) []
      nftTransfers := ← fs.defaulted "nft_transfers" (.list NftTransfer.reader) [] }

def toDocument (t : TokenTransfers) : Document :=
  .ofMembers [("token", t.token.toDocument),
    ("transfers", .ofList AccountAmount.toDocument t.transfers),
    ("nft_transfers", .ofList NftTransfer.toDocument t.nftTransfers)]

end TokenTransfers

namespace Transfer

def reader : Reader Transfer :=
  .record ["transfers", "token_transfers"] fun fs => do
    return {
      transfers := ← fs.defaulted "transfers" (.list AccountAmount.reader) []
      tokenTransfers := ← fs.defaulted "token_transfers" (.list TokenTransfers.reader) [] }

def toDocument (t : Transfer) : Document :=
  .ofMembers [("transfers", .ofList AccountAmount.toDocument t.transfers),
    ("token_transfers", .ofList TokenTransfers.toDocument t.tokenTransfers)]

end Transfer

namespace TokenMint

def reader : Reader TokenMint :=
  .record ["token", "amount", "metadata"] fun fs => do
    return {
      token := ← fs.optional "token" TokenId.reader
      amount := ← fs.defaulted "amount" .nat64 0
      metadata := ← fs.defaulted "metadata" (.list .bytes) [] }

def toDocument (m : TokenMint) : Document :=
  .ofMembers [("token", .ofOption TokenId.toDocument m.token), ("amount", .ofNat m.amount),
    ("metadata", .ofList .ofBytes m.metadata)]

end TokenMint

def gasReader : Reader Int := .record ["gas"] fun fs => fs.required "gas" .int64

/-- Reads the creation of a schedule, given how the scheduled transaction is read. -/
def ScheduleCreate.readerOf (scheduled : Reader TransactionData) : Reader ScheduleCreate :=
  .record ["scheduled", "wait_for_expiry", "expiration_time"] fun fs => do
    return {
      scheduled := ← fs.optional "scheduled" scheduled
      waitForExpiry := ← fs.defaulted "wait_for_expiry" .bool false
      expiration := ← fs.optional "expiration_time" Timestamp.reader }

namespace TransactionData

def readerOf (scheduled : Reader TransactionData) : Reader TransactionData :=
  .variant (fun _ => none) fun
    | "CryptoTransfer" => some fun f d => (Transfer.reader f d).map .cryptoTransfer
    | "ContractCreate" => some fun f d => (gasReader f d).map .contractCreate
    | "ContractCall" => some fun f d => (gasReader f d).map .contractCall
    | "EthereumTransaction" => some fun f d =>
      (Reader.record ["ethereum_data"] (fun fs => fs.required "ethereum_data" .bytes) f d).map
        .ethereum
    | "TokenMint" => some fun f d => (TokenMint.reader f d).map .tokenMint
    | "ScheduleCreate" => some fun f d =>
      (ScheduleCreate.readerOf scheduled f d).map .scheduleCreate
    | "Other" => some fun f d => (Functionality.reader f d).map .other
    | _ => none

/-- Reads what a transaction does, with schedules nested to some depth. -/
def readerTo : Nat → Reader TransactionData
  | 0 => fun _ _ => none
  | depth + 1 => readerOf (readerTo depth)

/-- Reads what a transaction does. Every nested schedule takes a level that the format allows. -/
def reader : Reader TransactionData := fun f d => readerTo (f.levels + 1) f d

mutual

def toDocument : TransactionData → Document
  | cryptoTransfer transfer => .ofVariant "CryptoTransfer" transfer.toDocument
  | contractCreate gas => .ofVariant "ContractCreate" (.ofMembers [("gas", .integer gas)])
  | contractCall gas => .ofVariant "ContractCall" (.ofMembers [("gas", .integer gas)])
  | ethereum payload =>
    .ofVariant "EthereumTransaction" (.ofMembers [("ethereum_data", .ofBytes payload)])
  | tokenMint mint => .ofVariant "TokenMint" mint.toDocument
  | scheduleCreate schedule => .ofVariant "ScheduleCreate" (scheduleToDocument schedule)
  | other function => .ofVariant "Other" function.toDocument

def scheduleToDocument : ScheduleCreate → Document
  | ⟨scheduled, waitForExpiry, expiration⟩ =>
    .ofMembers [("scheduled", optionToDocument scheduled), ("wait_for_expiry", .bool waitForExpiry),
      ("expiration_time", .ofOption Timestamp.toDocument expiration)]

def optionToDocument : Option TransactionData → Document
  | none => .null
  | some data => data.toDocument

end

end TransactionData

namespace ScheduleCreate

def reader : Reader ScheduleCreate := readerOf TransactionData.reader

end ScheduleCreate

namespace TransactionId

def reader : Reader TransactionId :=
  .record ["payer", "valid_start"] fun fs => do
    return ⟨← fs.required "payer" AccountId.reader, ← fs.required "valid_start" Timestamp.reader⟩

def toDocument (id : TransactionId) : Document :=
  .ofMembers [("payer", id.payer.toDocument), ("valid_start", id.validStart.toDocument)]

end TransactionId

namespace TransactionBody

def reader : Reader TransactionBody :=
  .record ["transaction_id", "data"] fun fs => do
    return {
      id := ← fs.optional "transaction_id" TransactionId.reader
      data := ← fs.required "data" TransactionData.reader }

def toDocument (b : TransactionBody) : Document :=
  .ofMembers [("transaction_id", .ofOption TransactionId.toDocument b.id),
    ("data", b.data.toDocument)]

end TransactionBody

namespace Query

def reader : Reader Query :=
  .variant (fun _ => none) fun
    | "CryptoGetAccountBalance" => some <|
      .record ["account_id"] fun fs => do
        return .accountBalance (← fs.optional "account_id" AccountId.reader)
    | "ContractCallLocal" => some fun f d => (gasReader f d).map .contractCallLocal
    | "Other" => some fun f d => (Functionality.reader f d).map .other
    | _ => none

def toDocument : Query → Document
  | accountBalance account =>
    .ofVariant "CryptoGetAccountBalance"
      (.ofMembers [("account_id", .ofOption AccountId.toDocument account)])
  | contractCallLocal gas => .ofVariant "ContractCallLocal" (.ofMembers [("gas", .integer gas)])
  | other function => .ofVariant "Other" function.toDocument

end Query

end Throttling
