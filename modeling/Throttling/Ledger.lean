import Throttling.Account

/-!
# The ledger as decisions see it

A decision may look up accounts, token relations and schedules, and changes
none of them. `LedgerView` is what it can ask. `Ledger` is a ledger held in
memory, built by registering entries one by one; a later entry for the same key
replaces the earlier one.
-/

set_option autoImplicit false

namespace Throttling

/-- The questions a decision may ask of the ledger. -/
structure LedgerView where
  /-- The number of the account that an alias of a shard and realm resolves to. -/
  numberOfAlias : (shard realm : Nat) → List UInt8 → Option Nat
  /-- Whether an account has a relation with a token. -/
  hasRelation : AccountId → TokenId → Bool
  /-- Number of token associations of an account, if it exists. -/
  associations : AccountId → Option Nat
  /-- Number of schedules that expire in a second of consensus time. -/
  schedulesExpiringAt : Int → Nat

def LedgerView.containsAlias (v : LedgerView) (shard realm : Nat) (bytes : List UInt8) : Bool :=
  (v.numberOfAlias shard realm bytes).isSome

/-- An entry of a ledger that is registered under a shard, a realm and a key. -/
structure Placed (Key : Type) where
  shard : Nat
  realm : Nat
  key : Key
  deriving DecidableEq, Repr

/-- A ledger in memory. Each table has its latest entry first. -/
structure Ledger where
  aliases : List (Placed (List UInt8) × Nat)
  accounts : List (Placed Nat × Nat)
  relations : List (AccountId × TokenId)
  schedules : List (Int × Nat)
  deriving Repr

namespace Ledger

def empty : Ledger := ⟨[], [], [], []⟩

/-- Register an account of shard 0 and realm 0 with its number of associations. -/
def withAccount (l : Ledger) (num associations : Nat) : Ledger :=
  { l with accounts := (⟨0, 0, num⟩, associations) :: l.accounts }

/-- Register an alias of shard 0 and realm 0 for an account, which comes to exist. -/
def withAlias (l : Ledger) (bytes : List UInt8) (num : Nat) : Ledger :=
  let accounts :=
    match l.accounts.lookup ⟨0, 0, num⟩ with
    | some _ => l.accounts
    | none => (⟨0, 0, num⟩, 0) :: l.accounts
  { l with aliases := (⟨0, 0, bytes⟩, num) :: l.aliases, accounts }

def withRelation (l : Ledger) (account : AccountId) (token : TokenId) : Ledger :=
  { l with relations := (account, token) :: l.relations }

def withSchedules (l : Ledger) (second : Int) (count : Nat) : Ledger :=
  { l with schedules := (second, count) :: l.schedules }

def numberOfAlias (l : Ledger) (shard realm : Nat) (bytes : List UInt8) : Option Nat :=
  l.aliases.lookup ⟨shard, realm, bytes⟩

/-- The number of an account, looked up if it is referred to by alias. -/
def resolve (l : Ledger) (account : AccountId) : Option Nat :=
  match account.account with
  | .number num => some num
  | .aliased bytes => l.numberOfAlias account.shard account.realm bytes

/-- Whether a relation is registered, for the account as referred to or, for an alias, for the
number it resolves to. -/
def hasRelation (l : Ledger) (account : AccountId) (token : TokenId) : Bool :=
  l.relations.contains (account, token) ||
    match account.account with
    | .number _ => false
    | .aliased bytes =>
      match l.numberOfAlias account.shard account.realm bytes with
      | none => false
      | some num => l.relations.contains ({ account with account := .number num }, token)

def associations (l : Ledger) (account : AccountId) : Option Nat := do
  l.accounts.lookup ⟨account.shard, account.realm, ← l.resolve account⟩

def schedulesExpiringAt (l : Ledger) (second : Int) : Nat := (l.schedules.lookup second).getD 0

def view (l : Ledger) : LedgerView where
  numberOfAlias := l.numberOfAlias
  hasRelation := l.hasRelation
  associations := l.associations
  schedulesExpiringAt := l.schedulesExpiringAt

end Ledger

end Throttling
