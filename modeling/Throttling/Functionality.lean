/-!
# Functionalities

The closed set of transaction and query kinds that can be throttled. Definition
documents, configuration and transactions refer to a functionality by its name,
so `ofName?` is exact: it knows the sixty-two names and nothing else.
-/

set_option autoImplicit false

namespace Throttling

inductive Functionality where
  | cryptoTransfer | cryptoCreate | cryptoUpdate | cryptoDelete | cryptoApproveAllowance
  | cryptoDeleteAllowance | cryptoGetAccountBalance | cryptoGetInfo | cryptoGetAccountRecords
  | contractCall | contractCreate | contractUpdate | contractDelete | contractCallLocal
  | contractGetInfo | ethereumTransaction
  | consensusCreateTopic | consensusUpdateTopic | consensusDeleteTopic | consensusSubmitMessage
  | consensusGetTopicInfo
  | fileCreate | fileUpdate | fileAppend | fileDelete | fileGetContents | fileGetInfo
  | tokenCreate | tokenUpdate | tokenDelete | tokenMint | tokenBurn | tokenAssociateToAccount
  | tokenDissociateFromAccount | tokenFreezeAccount | tokenUnfreezeAccount
  | tokenGrantKycToAccount | tokenRevokeKycFromAccount | tokenAccountWipe | tokenPause
  | tokenUnpause | tokenAirdrop | tokenClaimAirdrop | tokenCancelAirdrop | tokenGetInfo
  | tokenGetNftInfo
  | scheduleCreate | scheduleSign | scheduleDelete | scheduleGetInfo
  | utilPrng | atomicBatch | freeze | systemDelete | systemUndelete | nodeCreate | nodeUpdate
  | nodeDelete | getVersionInfo | transactionGetReceipt | transactionGetRecord
  | networkGetExecutionTime
  deriving DecidableEq, Repr, Inhabited

namespace Functionality

/-- Every functionality, in order of declaration. -/
def all : List Functionality :=
  [.cryptoTransfer, .cryptoCreate, .cryptoUpdate, .cryptoDelete, .cryptoApproveAllowance,
   .cryptoDeleteAllowance, .cryptoGetAccountBalance, .cryptoGetInfo, .cryptoGetAccountRecords,
   .contractCall, .contractCreate, .contractUpdate, .contractDelete, .contractCallLocal,
   .contractGetInfo, .ethereumTransaction, .consensusCreateTopic, .consensusUpdateTopic,
   .consensusDeleteTopic, .consensusSubmitMessage, .consensusGetTopicInfo, .fileCreate,
   .fileUpdate, .fileAppend, .fileDelete, .fileGetContents, .fileGetInfo, .tokenCreate,
   .tokenUpdate, .tokenDelete, .tokenMint, .tokenBurn, .tokenAssociateToAccount,
   .tokenDissociateFromAccount, .tokenFreezeAccount, .tokenUnfreezeAccount,
   .tokenGrantKycToAccount, .tokenRevokeKycFromAccount, .tokenAccountWipe, .tokenPause,
   .tokenUnpause, .tokenAirdrop, .tokenClaimAirdrop, .tokenCancelAirdrop, .tokenGetInfo,
   .tokenGetNftInfo, .scheduleCreate, .scheduleSign, .scheduleDelete, .scheduleGetInfo,
   .utilPrng, .atomicBatch, .freeze, .systemDelete, .systemUndelete, .nodeCreate, .nodeUpdate,
   .nodeDelete, .getVersionInfo, .transactionGetReceipt, .transactionGetRecord,
   .networkGetExecutionTime]

def name : Functionality → String
  | .cryptoTransfer => "CryptoTransfer"
  | .cryptoCreate => "CryptoCreate"
  | .cryptoUpdate => "CryptoUpdate"
  | .cryptoDelete => "CryptoDelete"
  | .cryptoApproveAllowance => "CryptoApproveAllowance"
  | .cryptoDeleteAllowance => "CryptoDeleteAllowance"
  | .cryptoGetAccountBalance => "CryptoGetAccountBalance"
  | .cryptoGetInfo => "CryptoGetInfo"
  | .cryptoGetAccountRecords => "CryptoGetAccountRecords"
  | .contractCall => "ContractCall"
  | .contractCreate => "ContractCreate"
  | .contractUpdate => "ContractUpdate"
  | .contractDelete => "ContractDelete"
  | .contractCallLocal => "ContractCallLocal"
  | .contractGetInfo => "ContractGetInfo"
  | .ethereumTransaction => "EthereumTransaction"
  | .consensusCreateTopic => "ConsensusCreateTopic"
  | .consensusUpdateTopic => "ConsensusUpdateTopic"
  | .consensusDeleteTopic => "ConsensusDeleteTopic"
  | .consensusSubmitMessage => "ConsensusSubmitMessage"
  | .consensusGetTopicInfo => "ConsensusGetTopicInfo"
  | .fileCreate => "FileCreate"
  | .fileUpdate => "FileUpdate"
  | .fileAppend => "FileAppend"
  | .fileDelete => "FileDelete"
  | .fileGetContents => "FileGetContents"
  | .fileGetInfo => "FileGetInfo"
  | .tokenCreate => "TokenCreate"
  | .tokenUpdate => "TokenUpdate"
  | .tokenDelete => "TokenDelete"
  | .tokenMint => "TokenMint"
  | .tokenBurn => "TokenBurn"
  | .tokenAssociateToAccount => "TokenAssociateToAccount"
  | .tokenDissociateFromAccount => "TokenDissociateFromAccount"
  | .tokenFreezeAccount => "TokenFreezeAccount"
  | .tokenUnfreezeAccount => "TokenUnfreezeAccount"
  | .tokenGrantKycToAccount => "TokenGrantKycToAccount"
  | .tokenRevokeKycFromAccount => "TokenRevokeKycFromAccount"
  | .tokenAccountWipe => "TokenAccountWipe"
  | .tokenPause => "TokenPause"
  | .tokenUnpause => "TokenUnpause"
  | .tokenAirdrop => "TokenAirdrop"
  | .tokenClaimAirdrop => "TokenClaimAirdrop"
  | .tokenCancelAirdrop => "TokenCancelAirdrop"
  | .tokenGetInfo => "TokenGetInfo"
  | .tokenGetNftInfo => "TokenGetNftInfo"
  | .scheduleCreate => "ScheduleCreate"
  | .scheduleSign => "ScheduleSign"
  | .scheduleDelete => "ScheduleDelete"
  | .scheduleGetInfo => "ScheduleGetInfo"
  | .utilPrng => "UtilPrng"
  | .atomicBatch => "AtomicBatch"
  | .freeze => "Freeze"
  | .systemDelete => "SystemDelete"
  | .systemUndelete => "SystemUndelete"
  | .nodeCreate => "NodeCreate"
  | .nodeUpdate => "NodeUpdate"
  | .nodeDelete => "NodeDelete"
  | .getVersionInfo => "GetVersionInfo"
  | .transactionGetReceipt => "TransactionGetReceipt"
  | .transactionGetRecord => "TransactionGetRecord"
  | .networkGetExecutionTime => "NetworkGetExecutionTime"

/-- The functionality of a name, which must be spelt exactly. -/
def ofName? (text : String) : Option Functionality := all.find? (fun f => f.name == text)

def index (f : Functionality) : Nat := all.idxOf f

def unknownMessage (text : String) : String := "unknown functionality '" ++ text ++ "'"

def gasMetered : Functionality → Bool
  | .contractCallLocal | .contractCall | .contractCreate | .ethereumTransaction => true
  | _ => false

/-- Whether accounts can be created as a side effect. -/
def canCreateAccounts : Functionality → Bool
  | .cryptoTransfer | .ethereumTransaction => true
  | _ => false

def canAssociateTokens (f : Functionality) : Bool := f == .cryptoTransfer

/-- Whether this functionality is answered as a query and never submitted as a transaction. -/
def isQuery : Functionality → Bool
  | .cryptoGetAccountBalance | .cryptoGetInfo | .cryptoGetAccountRecords | .contractCallLocal
  | .contractGetInfo | .consensusGetTopicInfo | .fileGetContents | .fileGetInfo | .tokenGetInfo
  | .tokenGetNftInfo | .scheduleGetInfo | .getVersionInfo | .transactionGetReceipt
  | .transactionGetRecord | .networkGetExecutionTime => true
  | _ => false

end Functionality

end Throttling
