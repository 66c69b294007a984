import Throttling.Account
import Throttling.Error
import Throttling.Timestamp

/-!
# Transactions and queries

The parsed view of what is submitted: the fields that a throttle decision looks
at, and for every other kind only its functionality. A transaction that creates
a schedule carries the transaction to be scheduled, which is an ordinary
transaction paid by the same account.
-/

set_option autoImplicit false

namespace Throttling

/-- An adjustment of a balance; positive amounts credit the account. -/
structure AccountAmount where
  account : AccountId
  amount : Int
  deriving DecidableEq, Repr

structure NftTransfer where
  sender : AccountId
  receiver : Option AccountId
  serial : Int
  deriving DecidableEq, Repr

structure TokenTransfers where
  token : TokenId
  transfers : List AccountAmount
  nftTransfers : List NftTransfer
  deriving DecidableEq, Repr

structure Transfer where
  transfers : List AccountAmount
  tokenTransfers : List TokenTransfers
  deriving DecidableEq, Repr

/-- A mint of a token: an amount, or one item with metadata for each new serial number. -/
structure TokenMint where
  token : Option TokenId
  amount : Nat
  metadata : List (List UInt8)
  deriving DecidableEq, Repr

mutual

structure ScheduleCreate where
  /-- The transaction to be scheduled. -/
  scheduled : Option TransactionData
  /-- Whether execution waits for the explicit expiration time. -/
  waitForExpiry : Bool
  expiration : Option Timestamp

inductive TransactionData where
  | cryptoTransfer (transfer : Transfer)
  | contractCreate (gas : Int)
  | contractCall (gas : Int)
  | ethereum (payload : List UInt8)
  | tokenMint (mint : TokenMint)
  | scheduleCreate (schedule : ScheduleCreate)
  /-- Any other kind; only its functionality bears on throttling. -/
  | other (function : Functionality)

end

/-- Who pays for a transaction, and the start of its validity. -/
structure TransactionId where
  payer : AccountId
  validStart : Timestamp
  deriving DecidableEq, Repr

structure TransactionBody where
  id : Option TransactionId
  data : TransactionData

structure Transaction where
  body : TransactionBody
  payer : AccountId
  function : Functionality
  /-- Size of the signed transaction in octets. -/
  size : Nat

inductive Query where
  | accountBalance (account : Option AccountId)
  | contractCallLocal (gas : Int)
  | other (function : Functionality)
  deriving DecidableEq, Repr

namespace Transfer

def accounts (t : Transfer) : List AccountId :=
  t.transfers.map (·.account) ++
    t.tokenTransfers.flatMap fun list =>
      list.transfers.map (·.account) ++
        list.nftTransfers.flatMap fun change => change.sender :: change.receiver.toList

def usesAliases (t : Transfer) : Bool := t.accounts.any (·.isAlias)

end Transfer

def TransactionData.function : TransactionData → Functionality
  | cryptoTransfer _ => .cryptoTransfer
  | contractCreate _ => .contractCreate
  | contractCall _ => .contractCall
  | ethereum _ => .ethereumTransaction
  | tokenMint _ => .tokenMint
  | scheduleCreate _ => .scheduleCreate
  | other function => function

namespace TransactionBody

def transfer? (b : TransactionBody) : Option Transfer :=
  match b.data with
  | .cryptoTransfer transfer => some transfer
  | _ => none

def ethereum? (b : TransactionBody) : Option (List UInt8) :=
  match b.data with
  | .ethereum payload => some payload
  | _ => none

/-- Start of the validity; the epoch without a transaction id. -/
def validStart (b : TransactionBody) : Timestamp :=
  match b.id with
  | some id => id.validStart
  | none => .epoch

end TransactionBody

/-- A submitted transaction of the functionality that its body has. -/
def Transaction.ofBody (payer : AccountId) (body : TransactionBody) (size : Nat) : Transaction :=
  { body, payer, function := body.data.function, size }

namespace ScheduleCreate

/-- The scheduled transaction as an ordinary one. A query cannot be scheduled, nor can the creation
of a schedule. -/
def inner (s : ScheduleCreate) (payer : AccountId) (validStart : Timestamp) :
    Except Error TransactionBody :=
  match s.scheduled with
  | none => .error (.unschedulable .missingTransaction)
  | some data =>
    if data.function = .scheduleCreate ∨ data.function.isQuery then
      .error (.unschedulable (.notSchedulable data.function))
    else .ok ⟨some ⟨payer, validStart⟩, data⟩

end ScheduleCreate

def Query.function : Query → Functionality
  | accountBalance _ => .cryptoGetAccountBalance
  | contractCallLocal _ => .contractCallLocal
  | other function => function

end Throttling
