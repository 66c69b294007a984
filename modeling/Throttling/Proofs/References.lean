import Throttling.Cost
import Throttling.Proofs.Pointwise

/-!
# Accounts by alias and by number

A transfer may refer to an account by an alias that the ledger resolves, or by the number it
resolves to. The accounts it creates and the associations it brings about are the same either way,
whichever of its references are rewritten (`costs_of_renamed`). The two costs ask different questions:
the first whether an alias resolves, the second whether a relation is registered. A number passes
for an alias that resolves in the first, and in the second because an alias is looked up by its
number. For this, relations have to be registered by number.
-/

set_option autoImplicit false

namespace Throttling

/-! ## Ledgers entry by entry -/

namespace Ledger

inductive Entry where
  | account (num associations : Nat)
  | aliased (bytes : List UInt8) (num : Nat)
  | relation (holder : AccountId) (token : TokenId)
  | schedules (second : Int) (count : Nat)
  deriving DecidableEq, Repr

def register (l : Ledger) : Entry → Ledger
  | .account num associations => l.withAccount num associations
  | .aliased bytes num => l.withAlias bytes num
  | .relation holder token => l.withRelation holder token
  | .schedules second count => l.withSchedules second count

def build (entries : List Entry) : Ledger := entries.foldl register empty

def Entry.ByNumber : Entry → Prop
  | .relation holder _ => holder.isAlias = false
  | _ => True

instance : DecidablePred Entry.ByNumber
  | .relation holder _ => inferInstanceAs (Decidable (holder.isAlias = false))
  | .account _ _ | .aliased _ _ | .schedules _ _ => inferInstanceAs (Decidable True)

def RelatedByNumber (l : Ledger) : Prop := ∀ r ∈ l.relations, r.1.isAlias = false

variable {l : Ledger}

theorem register_relatedByNumber (related : l.RelatedByNumber) {entry : Entry}
    (byNumber : entry.ByNumber) : (l.register entry).RelatedByNumber := by
  cases entry with
  | relation holder token =>
    intro r member
    rcases List.mem_cons.mp member with rfl | before
    · exact byNumber
    · exact related r before
  | account | aliased | schedules => exact related

theorem build_relatedByNumber {entries : List Entry} (byNumber : ∀ e ∈ entries, e.ByNumber) :
    (build entries).RelatedByNumber := by
  have from_start : ∀ start : Ledger, start.RelatedByNumber →
      (entries.foldl register start).RelatedByNumber := by
    induction entries with
    | nil => exact fun _ related => related
    | cons entry entries ih =>
      obtain ⟨first, rest⟩ := List.forall_mem_cons.mp byNumber
      exact fun start related => ih rest _ (register_relatedByNumber related first)
  exact from_start empty fun r member => nomatch member

/-- An alias that resolves is related to a token exactly if the number it resolves to is. -/
theorem hasRelation_of_resolved (related : l.RelatedByNumber) {shard realm num : Nat}
    {bytes : List UInt8} (resolves : l.numberOfAlias shard realm bytes = some num)
    (token : TokenId) :
    l.hasRelation ⟨shard, realm, .aliased bytes⟩ token =
      l.hasRelation ⟨shard, realm, .number num⟩ token := by
  have unlisted : l.relations.contains (⟨shard, realm, .aliased bytes⟩, token) = false := by
    refine Bool.eq_false_iff.mpr fun listed => ?_
    cases related _ (List.contains_iff_mem.mp listed)
  simp only [hasRelation, unlisted, resolves, Bool.false_or, Bool.or_false]

/-! ## Renaming -/

/-- The second reference is the first, or the number to which the alias of the first resolves. -/
inductive Renames (l : Ledger) : AccountId → AccountId → Prop where
  | kept (account : AccountId) : Renames l account account
  | resolved {shard realm num : Nat} {bytes : List UInt8}
      (resolves : l.numberOfAlias shard realm bytes = some num) :
      Renames l ⟨shard, realm, .aliased bytes⟩ ⟨shard, realm, .number num⟩

structure RenamesAmount (l : Ledger) (a b : AccountAmount) : Prop where
  account : l.Renames a.account b.account
  amount : a.amount = b.amount

structure RenamesNft (l : Ledger) (a b : NftTransfer) : Prop where
  sender : l.Renames a.sender b.sender
  receiver : Option.Rel l.Renames a.receiver b.receiver
  serial : a.serial = b.serial

structure RenamesTokens (l : Ledger) (a b : TokenTransfers) : Prop where
  token : a.token = b.token
  transfers : List.Forall₂ l.RenamesAmount a.transfers b.transfers
  nftTransfers : List.Forall₂ l.RenamesNft a.nftTransfers b.nftTransfers

/-- A transfer in which any of the references by alias that resolve are replaced by numbers. -/
structure RenamesTransfer (l : Ledger) (a b : Transfer) : Prop where
  transfers : List.Forall₂ l.RenamesAmount a.transfers b.transfers
  tokenTransfers : List.Forall₂ l.RenamesTokens a.tokenTransfers b.tokenTransfers

theorem Renames.hasRelation_eq (related : l.RelatedByNumber) {a b : AccountId}
    (renamed : l.Renames a b) (token : TokenId) : l.hasRelation a token = l.hasRelation b token := by
  cases renamed with
  | kept => rfl
  | resolved resolves => exact hasRelation_of_resolved related resolves token

/-- Neither an alias that resolves nor a number is an alias that names no account. -/
theorem Renames.isUnusedAlias_eq {c : CostContext} (view : c.ledger = l.view) {a b : AccountId}
    (renamed : l.Renames a b) : c.isUnusedAlias a = c.isUnusedAlias b := by
  cases renamed with
  | kept => rfl
  | @resolved shard realm num bytes resolves =>
    have found : c.ledger.containsAlias shard realm bytes = true := by
      rw [LedgerView.containsAlias, view]
      exact Option.isSome_of_eq_some resolves
    simp only [CostContext.isUnusedAlias, AccountId.alias?, found, Bool.not_true, Bool.and_false]

end Ledger

/-! ## Costs of renamed transfers -/

namespace CostContext

open Ledger

variable {c : CostContext} {l : Ledger}

theorem createsAccount_renamed (view : c.ledger = l.view) {a b : AccountId}
    (renamed : l.Renames a b) (change : Int) :
    c.createsAccount a change = c.createsAccount b change := by
  have unused := renamed.isUnusedAlias_eq view
  cases renamed with
  | kept => rfl
  | @resolved shard realm num bytes =>
    -- no account is created for a number, so the alias creates none, whatever its shape
    have used : c.isUnusedAlias ⟨shard, realm, .number num⟩ = false := rfl
    rw [createsAccount, createsAccount, unused, used, Bool.false_and, Bool.false_and]

theorem creationsByAmounts_renamed (view : c.ledger = l.view) {as bs : List AccountAmount}
    (renamed : List.Forall₂ l.RenamesAmount as bs) :
    c.creationsByAmounts as = c.creationsByAmounts bs := by
  refine forall₂_countP (fun a b h => ?_) renamed
  rw [h.amount, createsAccount_renamed view h.account]

theorem creationsByNfts_renamed (view : c.ledger = l.view) {as bs : List NftTransfer}
    (renamed : List.Forall₂ l.RenamesNft as bs) :
    c.creationsByNfts as = c.creationsByNfts bs := by
  refine forall₂_countP (fun a b h => ?_) renamed
  rw [h.serial]
  exact rel_any (fun _ _ receiver => createsAccount_renamed view receiver _) h.receiver

theorem transferCreations_renamed (view : c.ledger = l.view) {a b : Transfer}
    (renamed : l.RenamesTransfer a b) : c.transferCreations a = c.transferCreations b := by
  rw [transferCreations, transferCreations, creationsByAmounts_renamed view renamed.transfers]
  congr 2
  refine forall₂_map_eq (fun list list' h => ?_) renamed.tokenTransfers
  rw [creationsByAmounts_renamed view h.transfers, creationsByNfts_renamed view h.nftTransfers]

theorem tokenAssociations_renamed (view : c.ledger = l.view) (related : l.RelatedByNumber)
    {a b : TokenTransfers} (renamed : l.RenamesTokens a b) :
    c.tokenAssociations a = c.tokenAssociations b := by
  have known (token : TokenId) {account account' : AccountId} (h : l.Renames account account') :
      c.ledger.hasRelation account token = c.ledger.hasRelation account' token := by
    rw [view]
    exact h.hasRelation_eq related token
  rw [tokenAssociations, tokenAssociations, renamed.token]
  congr 1
  · refine forall₂_countP (fun a b h => ?_) renamed.transfers
    rw [h.amount, known _ h.account]
  · refine forall₂_countP (fun a b h => ?_) renamed.nftTransfers
    exact rel_any (fun _ _ receiver => congrArg Bool.not (known _ receiver)) h.receiver

theorem autoAssociations_renamed (view : c.ledger = l.view) (related : l.RelatedByNumber)
    {a b : Transfer} (renamed : l.RenamesTransfer a b) (id : Option TransactionId) :
    c.autoAssociations ⟨id, .cryptoTransfer a⟩ = c.autoAssociations ⟨id, .cryptoTransfer b⟩ :=
  congrArg (List.foldr (· + ·) 0) <| forall₂_map_eq
    (fun _ _ h => tokenAssociations_renamed view related h) renamed.tokenTransfers

end CostContext

/-- What a transfer creates and associates does not depend on how it refers to existing accounts:
replacing any of the aliases that a ledger resolves by the numbers they resolve to changes neither
count, whatever was registered and in whatever order, if relations are registered by number. -/
theorem costs_of_renamed {entries : List Ledger.Entry} (byNumber : ∀ e ∈ entries, e.ByNumber)
    {a b : Transfer} (renamed : (Ledger.build entries).RenamesTransfer a b) (shard realm : Nat)
    (id : Option TransactionId) :
    let c : CostContext := ⟨(Ledger.build entries).view, shard, realm⟩
    c.implicitCreations ⟨id, .cryptoTransfer a⟩ = c.implicitCreations ⟨id, .cryptoTransfer b⟩ ∧
      c.autoAssociations ⟨id, .cryptoTransfer a⟩ =
        c.autoAssociations ⟨id, .cryptoTransfer b⟩ := by
  have related := Ledger.build_relatedByNumber byNumber
  exact ⟨congrArg ImplicitCreations.known (CostContext.transferCreations_renamed rfl renamed),
    CostContext.autoAssociations_renamed rfl related renamed id⟩

/-- An address and a key that resolve, the address registered twice, stand in all four kinds of
places; all of them are replaced but one. Another key is new, and one account has no relation. -/
theorem costs_of_renamed_mixed :
    let address : List UInt8 := List.replicate 20 0xab
    let key (seed : UInt8) : List UInt8 := [0x12, 0x20] ++ List.replicate 32 seed
    let token : TokenId := .ofNumber 500
    let entries : List Ledger.Entry := [.aliased address 7, .relation (.ofNumber 1001) token,
      .aliased (key 1) 1002, .schedules 1800 3, .aliased address 1001, .account 1001 4]
    let moved (x y z w v : AccountId) : Transfer :=
      ⟨[⟨.ofNumber 2, -9⟩, ⟨x, 9⟩, ⟨.ofAlias (key 2), 1⟩],
        [⟨token, [⟨y, 5⟩, ⟨z, 5⟩, ⟨.ofNumber 2, -10⟩], [⟨w, some v, 3⟩]⟩]⟩
    let a := moved (.ofAlias address) (.ofAlias address) (.ofAlias (key 1)) (.ofAlias address)
      (.ofAlias (key 1))
    let b := moved (.ofNumber 1001) (.ofNumber 1001) (.ofNumber 1002) (.ofAlias address)
      (.ofNumber 1002)
    let c : CostContext := ⟨(Ledger.build entries).view, 0, 0⟩
    (∀ e ∈ entries, e.ByNumber) ∧ (Ledger.build entries).RenamesTransfer a b ∧
      c.implicitCreations ⟨none, .cryptoTransfer a⟩ =
        c.implicitCreations ⟨none, .cryptoTransfer b⟩ ∧
      c.autoAssociations ⟨none, .cryptoTransfer a⟩ =
        c.autoAssociations ⟨none, .cryptoTransfer b⟩ ∧
      c.implicitCreations ⟨none, .cryptoTransfer b⟩ = .known 1 ∧
      c.autoAssociations ⟨none, .cryptoTransfer b⟩ = 2 := by
  intro address key token entries moved a b c
  have byNumber : ∀ e ∈ entries, e.ByNumber := by decide +kernel
  have first : (Ledger.build entries).Renames (.ofAlias address) (.ofNumber 1001) :=
    .resolved (by decide +kernel)
  have second : (Ledger.build entries).Renames (.ofAlias (key 1)) (.ofNumber 1002) :=
    .resolved (by decide +kernel)
  have renamed : (Ledger.build entries).RenamesTransfer a b :=
    { transfers := .cons ⟨.kept _, rfl⟩ (.cons ⟨first, rfl⟩ (.cons ⟨.kept _, rfl⟩ .nil))
      tokenTransfers := .cons
        { token := rfl
          transfers := .cons ⟨first, rfl⟩ (.cons ⟨second, rfl⟩ (.cons ⟨.kept _, rfl⟩ .nil))
          nftTransfers := .cons ⟨.kept _, .some second, rfl⟩ .nil } .nil }
  obtain ⟨creations, associations⟩ := costs_of_renamed byNumber renamed 0 0 none
  exact ⟨byNumber, renamed, creations, associations, by decide +kernel, by decide +kernel⟩

end Throttling
