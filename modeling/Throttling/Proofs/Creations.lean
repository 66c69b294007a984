import Throttling.Cost
import Throttling.Proofs.Ethereum

/-!
# Accounts created by credits

A transfer creates an account for each credit to an alias that names no account yet and can become
one. What it creates depends on its credits alone, whatever kind of asset they are in
(`transferCreations_eq`). An Ethereum transaction that transfers value is a credit to its recipient,
but only the ledger is asked whether the recipient exists. So the two agree on every recipient
except one that spells an entity number of the shard and realm and is not registered
(`ethereum_creates_like_transfer_iff`): for a transfer this is an entity that exists, for an
Ethereum transaction an account to create.
-/

set_option autoImplicit false

namespace Throttling

/-! ## Credits of a transfer -/

/-- What a transfer moves: for each account the amount, negative for a debit, and for each receiver
of a serial number the number. -/
def Transfer.legs (t : Transfer) : List (AccountId × Int) :=
  t.transfers.map (fun a => (a.account, a.amount)) ++ t.tokenTransfers.flatMap fun list =>
    list.transfers.map (fun a => (a.account, a.amount)) ++
      list.nftTransfers.filterMap fun change => change.receiver.map (·, change.serial)

def Transfer.credits (t : Transfer) : List AccountId :=
  (t.legs.filter fun leg => 0 < leg.2).map (·.1)

namespace CostContext

theorem creationsByAmounts_eq (c : CostContext) (adjustments : List AccountAmount) :
    c.creationsByAmounts adjustments =
      (adjustments.map fun a => (a.account, a.amount)).countP fun leg =>
        c.createsAccount leg.1 leg.2 := by
  rw [List.countP_map]
  rfl

theorem creationsByNfts_eq (c : CostContext) (changes : List NftTransfer) :
    c.creationsByNfts changes =
      (changes.filterMap fun change => change.receiver.map (·, change.serial)).countP fun leg =>
        c.createsAccount leg.1 leg.2 := by
  rw [List.countP_filterMap]
  refine List.countP_congr fun change _ => ?_
  cases change.receiver <;> simp

/-- Every leg of a transfer counts on its own. -/
theorem transferCreations_eq_countP_legs (c : CostContext) (t : Transfer) :
    c.transferCreations t = t.legs.countP fun leg => c.createsAccount leg.1 leg.2 := by
  unfold transferCreations Transfer.legs
  rw [List.countP_append, List.countP_flatMap, creationsByAmounts_eq]
  congr 2
  refine List.map_congr_left fun list _ => ?_
  rw [creationsByAmounts_eq, creationsByNfts_eq, ← List.countP_append]
  rfl

theorem createsAccount_of_pos (c : CostContext) (account : AccountId) {change : Int}
    (credit : 0 < change) : c.createsAccount account change = c.createsAccount account 1 := by
  simp [createsAccount, credit]

/-- A transfer creates an account for each of its credits that creates one. -/
theorem transferCreations_eq (c : CostContext) (t : Transfer) :
    c.transferCreations t = t.credits.countP (c.createsAccount · 1) := by
  rw [transferCreations_eq_countP_legs, Transfer.credits, List.countP_map, List.countP_filter]
  refine List.countP_congr fun leg _ => ?_
  by_cases credit : 0 < leg.2
  · simp [c.createsAccount_of_pos leg.1 credit, credit]
  · simp [createsAccount, credit]

end CostContext

/-! ## References by alias -/

theorem isAlias_of_createsAccount {c : CostContext} {account : AccountId} {change : Int}
    (creates : c.createsAccount account change = true) : account.isAlias = true := by
  unfold CostContext.createsAccount CostContext.isUnusedAlias at creates
  unfold AccountId.isAlias
  cases named : account.alias? with
  | none => simp [named] at creates
  | some bytes => rfl

/-- Assets are moved between accounts that the transfer names. -/
theorem mem_accounts_of_mem_legs {t : Transfer} {leg : AccountId × Int} (member : leg ∈ t.legs) :
    leg.1 ∈ t.accounts := by
  have named {adjustments : List AccountAmount}
      (here : leg ∈ adjustments.map fun a => (a.account, a.amount)) :
      leg.1 ∈ adjustments.map (·.account) := by
    obtain ⟨a, there, rfl⟩ := List.mem_map.mp here
    exact List.mem_map_of_mem there
  rcases List.mem_append.mp member with currency | token
  · exact List.mem_append_left _ (named currency)
  · obtain ⟨list, listed, moved⟩ := List.mem_flatMap.mp token
    refine List.mem_append_right _ (List.mem_flatMap.mpr ⟨list, listed, ?_⟩)
    rcases List.mem_append.mp moved with amount | serial
    · exact List.mem_append_left _ (named amount)
    · obtain ⟨change, there, received⟩ := List.mem_filterMap.mp serial
      obtain ⟨receiver, receives, rfl⟩ := Option.map_eq_some_iff.mp received
      refine List.mem_append_right _ (List.mem_flatMap.mpr ⟨change, there, ?_⟩)
      exact List.mem_cons_of_mem _ (Option.mem_toList.mpr receives)

/-- An account that a transfer creates is referred to by alias. -/
theorem usesAliases_of_transferCreations_pos {c : CostContext} {t : Transfer}
    (creates : 0 < c.transferCreations t) : t.usesAliases = true := by
  rw [c.transferCreations_eq_countP_legs, List.countP_pos_iff] at creates
  obtain ⟨leg, member, creates⟩ := creates
  exact List.any_eq_true.mpr
    ⟨leg.1, mem_accounts_of_mem_legs member, isAlias_of_createsAccount creates⟩

/-! ## Credits to addresses -/

namespace CostContext

variable {c : CostContext} {address : List UInt8}

/-- A credit to an address creates the account unless the address spells an entity number or is
registered. -/
theorem createsAccount_address (size : address.length = evmAddressSize) :
    c.createsAccount ⟨c.shard, c.realm, .aliased address⟩ 1 =
      (!Alias.isEntityNumber address c.shard c.realm &&
        !c.ledger.containsAlias c.shard c.realm address) := by
  simp [createsAccount, isUnusedAlias, AccountId.alias?, Alias.canSeedAccount,
    Alias.hasAddressSize, size]

/-- What a transfer creates whose only credit goes to an address of the shard and realm. -/
theorem implicitCreations_transfer (size : address.length = evmAddressSize) {t : Transfer}
    (credits : t.credits = [⟨c.shard, c.realm, .aliased address⟩]) (id : Option TransactionId) :
    c.implicitCreations ⟨id, .cryptoTransfer t⟩ =
      .known (if Alias.isEntityNumber address c.shard c.realm = true ∨
        c.ledger.containsAlias c.shard c.realm address = true then 0 else 1) := by
  change ImplicitCreations.known (c.transferCreations t) = _
  rw [transferCreations_eq, credits, List.countP_singleton, createsAccount_address size]
  cases Alias.isEntityNumber address c.shard c.realm <;>
    cases c.ledger.containsAlias c.shard c.realm address <;> rfl

/-- What an Ethereum transaction creates that transfers value to an address. -/
theorem implicitCreations_ethereum {payload : List UInt8} {fields : Ethereum.Fields}
    (decoded : Ethereum.decode payload = .ok fields) (recipient : fields.recipient = some address)
    (value : fields.transfersValue = true) (id : Option TransactionId) :
    c.implicitCreations ⟨id, .ethereum payload⟩ =
      .known (if c.ledger.containsAlias c.shard c.realm address = true then 0 else 1) := by
  simp only [implicitCreations, decoded, ethereumCreations, recipient, value, Bool.not_true,
    Bool.false_eq_true, if_false]

end CostContext

/-- A recipient that is decoded is an address. -/
theorem Ethereum.length_recipient {payload address : List UInt8} {fields : Ethereum.Fields}
    (decoded : Ethereum.decode payload = .ok fields) (recipient : fields.recipient = some address) :
    address.length = evmAddressSize := by
  obtain ⟨kind, _, -, -, read⟩ := Ethereum.decode_eq_ok_iff_list.mp decoded
  obtain ⟨e, -, wellFormed, -, -, rfl⟩ := Ethereum.readFields_eq_ok_iff.mp read
  simp only [Ethereum.Envelope.fields] at recipient
  split at recipient
  · cases recipient
  · rename_i named
    cases recipient
    exact wellFormed.recipient.resolve_left (mt List.eq_nil_of_length_eq_zero named)

/-! ## The two ways to transfer value -/

/-- An Ethereum transaction that transfers value to an address creates as many accounts as a
transfer whose only credit goes to that alias in the shard and realm, exactly if the address does
not spell an entity number of them or is registered. -/
theorem ethereum_creates_like_transfer_iff {c : CostContext} {payload address : List UInt8}
    {fields : Ethereum.Fields} (decoded : Ethereum.decode payload = .ok fields)
    (recipient : fields.recipient = some address) (value : fields.transfersValue = true)
    {t : Transfer} (credits : t.credits = [⟨c.shard, c.realm, .aliased address⟩])
    (id id' : Option TransactionId) :
    c.implicitCreations ⟨id, .ethereum payload⟩ = c.implicitCreations ⟨id', .cryptoTransfer t⟩ ↔
      (Alias.isEntityNumber address c.shard c.realm = true →
        c.ledger.containsAlias c.shard c.realm address = true) := by
  have size := Ethereum.length_recipient decoded recipient
  rw [CostContext.implicitCreations_ethereum decoded recipient value,
    CostContext.implicitCreations_transfer size credits]
  cases Alias.isEntityNumber address c.shard c.realm <;>
    cases c.ledger.containsAlias c.shard c.realm address <;> simp

/-- One account is created by an Ethereum transaction that sends five to an unregistered address of
no entity, and by a transfer of five to the same alias. -/
theorem ethereum_creates_like_transfer_iff_evmAddress :
    let c : CostContext := ⟨Ledger.empty.view, 0, 0⟩
    let address : List UInt8 := List.replicate 20 0xab
    let payload := (Ethereum.Signed.legacy 0 1 ⟨21000, some address, 5, []⟩ 27 1 1).encode
    let t : Transfer :=
      ⟨[⟨.ofNumber 5000, -5⟩, ⟨.ofAlias address, 5⟩], []⟩
    Ethereum.decode payload = .ok ⟨21000, some address, true⟩ ∧
      t.credits = [⟨0, 0, .aliased address⟩] ∧
      c.implicitCreations ⟨none, .ethereum payload⟩ =
        c.implicitCreations ⟨none, .cryptoTransfer t⟩ ∧
      c.implicitCreations ⟨none, .ethereum payload⟩ = .known 1 := by
  intro c address payload t
  have decoded : Ethereum.decode payload = .ok ⟨21000, some address, true⟩ := by decide +kernel
  have credits : t.credits = [⟨c.shard, c.realm, .aliased address⟩] := by decide +kernel
  have same :=
    (ethereum_creates_like_transfer_iff decoded rfl rfl credits none none).mpr (by decide +kernel)
  exact ⟨decoded, credits, same, by decide +kernel⟩

/-- An address that spells the number of an entity of the shard and realm, and is not registered, is
an account to create for an Ethereum transaction only. -/
theorem ethereum_can_create_what_a_transfer_does_not :
    ¬ ∀ {c : CostContext} {payload address : List UInt8} {fields : Ethereum.Fields},
      Ethereum.decode payload = .ok fields → fields.recipient = some address →
        fields.transfersValue = true → ∀ {t : Transfer},
          t.credits = [⟨c.shard, c.realm, .aliased address⟩] →
            ∀ id id' : Option TransactionId,
              c.implicitCreations ⟨id, .ethereum payload⟩ =
                c.implicitCreations ⟨id', .cryptoTransfer t⟩ := by
  intro agree
  let address : List UInt8 := List.replicate 18 0x00 ++ [0x04, 0xd2]
  let payload := (Ethereum.Signed.legacy 0 1 ⟨21000, some address, 5, []⟩ 27 1 1).encode
  have decoded : Ethereum.decode payload = .ok ⟨21000, some address, true⟩ := by decide +kernel
  have same := @agree ⟨Ledger.empty.view, 0, 0⟩ payload address _ decoded rfl rfl
    ⟨[⟨.ofNumber 5000, -5⟩, ⟨.ofAlias address, 5⟩], []⟩ (by decide +kernel) none none
  exact absurd same (by decide +kernel)

end Throttling
