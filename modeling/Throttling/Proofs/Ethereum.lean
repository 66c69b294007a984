import Throttling.Ethereum
import Throttling.Proofs.Rlp

/-!
# The grammar of transaction payloads

A payload is decoded exactly if it is an envelope of one of three kinds: a type octet, if the kind
has one, and then a list that spans the rest and starts with the right number of strings, a gas
limit of at most eight octets, a recipient of none or twenty, a value and the call data. What follows
in the list may be anything. Since strings and lists have one encoding, a payload is an envelope in
at most one way, and an encoded transaction decodes to its own fields (`decode_iff_envelope`).
-/

set_option autoImplicit false

namespace Throttling.Ethereum

open Rlp (octets encodeStrings)

/-! ## Envelopes -/

/-- The kinds of transaction: before types were introduced, with an access list (EIP-2930), and with
a dynamic fee (EIP-1559). -/
inductive Kind where
  | legacy | accessList | dynamicFee
  deriving DecidableEq, Repr

def Kind.typeOctets : Kind → List UInt8
  | legacy => []
  | accessList => [0x01]
  | dynamicFee => [0x02]

def Kind.leading : Kind → Nat
  | legacy => 2
  | accessList => 3
  | dynamicFee => 4

structure Envelope where
  kind : Kind
  /-- The strings in front of the gas limit. -/
  leading : List (List UInt8)
  gasLimit : List UInt8
  recipient : List UInt8
  value : List UInt8
  callData : List UInt8
  /-- What follows the call data, encoded or not. -/
  tail : List UInt8
  deriving DecidableEq, Repr

namespace Envelope

structure WellFormed (e : Envelope) : Prop where
  leading : e.leading.length = e.kind.leading
  gasLimit : e.gasLimit.length ≤ 8
  recipient : e.recipient.length = 0 ∨ e.recipient.length = evmAddressSize

def strings (e : Envelope) : List (List UInt8) :=
  e.leading ++ [e.gasLimit, e.recipient, e.value, e.callData]

def payload (e : Envelope) : List UInt8 := encodeStrings e.strings ++ e.tail

def encode (e : Envelope) : List UInt8 := e.kind.typeOctets ++ Rlp.encode .list e.payload

def fields (e : Envelope) : Fields where
  gasLimit := Rlp.bigEndian e.gasLimit
  recipient := if e.recipient = [] then none else some e.recipient
  transfersValue := e.value.any (· != 0)

end Envelope

/-! ## Signed transactions -/

/-- The call that a transaction makes. -/
structure Message where
  gasLimit : Nat
  /-- The recipient; `none` when a contract is created. -/
  recipient : Option (List UInt8)
  value : Nat
  callData : List UInt8
  deriving DecidableEq, Repr

namespace Message

/-- The gas limit has 64 bits, and a recipient is an address. -/
structure Valid (m : Message) : Prop where
  gasLimit : m.gasLimit < 2 ^ 64
  recipient : ∀ address ∈ m.recipient, address.length = evmAddressSize

def fields (m : Message) : Fields := ⟨m.gasLimit, m.recipient, decide (0 < m.value)⟩

def strings (m : Message) : List (List UInt8) :=
  [octets m.gasLimit, m.recipient.getD [], octets m.value, m.callData]

/-- The envelope of the call, between what stands before and after it. -/
def within (m : Message) (kind : Kind) (leading : List Nat) (tail : List UInt8) : Envelope where
  kind
  leading := leading.map octets
  gasLimit := octets m.gasLimit
  recipient := m.recipient.getD []
  value := octets m.value
  callData := m.callData
  tail

end Message

def encodeNumbers (numbers : List Nat) : List UInt8 := encodeStrings (numbers.map octets)

/-- A signed transaction. The entries of an access list are given as they are encoded. -/
inductive Signed where
  | legacy (nonce gasPrice : Nat) (message : Message) (v r s : Nat)
  | accessList (chainId nonce gasPrice : Nat) (message : Message) (accesses : List UInt8)
      (parity r s : Nat)
  | dynamicFee (chainId nonce maxPriorityFee maxFee : Nat) (message : Message)
      (accesses : List UInt8) (parity r s : Nat)
  deriving DecidableEq, Repr

namespace Signed

def message : Signed → Message
  | legacy _ _ message _ _ _ => message
  | accessList _ _ _ message _ _ _ _ => message
  | dynamicFee _ _ _ _ message _ _ _ _ => message

def encode : Signed → List UInt8
  | legacy nonce gasPrice m v r s =>
    Rlp.encode .list (encodeNumbers [nonce, gasPrice] ++ encodeStrings m.strings ++
      encodeNumbers [v, r, s])
  | accessList chainId nonce gasPrice m accesses parity r s =>
    0x01 :: Rlp.encode .list (encodeNumbers [chainId, nonce, gasPrice] ++
      encodeStrings m.strings ++ (Rlp.encode .list accesses ++ encodeNumbers [parity, r, s]))
  | dynamicFee chainId nonce maxPriorityFee maxFee m accesses parity r s =>
    0x02 :: Rlp.encode .list (encodeNumbers [chainId, nonce, maxPriorityFee, maxFee] ++
      encodeStrings m.strings ++ (Rlp.encode .list accesses ++ encodeNumbers [parity, r, s]))

end Signed

/-! ## Fields -/

variable {data body bytes payload : List UInt8} {fields : Fields} {leading : Nat}

theorem number64_eq_ok_iff {n : Nat} :
    Rlp.number64 bytes = .ok n ↔ bytes.length ≤ 8 ∧ n = Rlp.bigEndian bytes := by
  unfold Rlp.number64
  split_ifs with wide
  · simp only [false_iff, not_and]
    omega
  · simp only [Except.ok.injEq, Nat.le_of_not_lt wide, true_and, eq_comm]

theorem recipient_eq_ok_iff {address : Option (List UInt8)} :
    recipient bytes = .ok address ↔
      (bytes.length = 0 ∨ bytes.length = evmAddressSize) ∧
        address = if bytes = [] then none else some bytes := by
  unfold recipient
  split_ifs with none full
  · simp [none, eq_comm]
  · simp [full, eq_comm]
  · simp [none, full]

/-- The payload of an envelope, in the order of reading. -/
theorem Envelope.payload_eq (e : Envelope) :
    e.payload = encodeStrings e.leading ++ (Rlp.encode .string e.gasLimit ++
      (Rlp.encode .string e.recipient ++ (Rlp.encode .string e.value ++
        (Rlp.encode .string e.callData ++ e.tail)))) := by
  simp [payload, strings]

/-- All strings of an envelope have a length that a header has room for. -/
def Envelope.Encodable (e : Envelope) : Prop := ∀ s ∈ e.strings, s.length < 2 ^ 64

/-- The fields are read exactly from the payloads of well-formed envelopes. -/
theorem readFields_eq_ok_iff {kind : Kind} :
    readFields kind.leading payload = .ok fields ↔
      ∃ e : Envelope, e.kind = kind ∧ e.WellFormed ∧ e.Encodable ∧ e.payload = payload ∧
        e.fields = fields := by
  unfold readFields Envelope.Encodable
  simp only [bind_eq_ok_iff, Prod.exists, Rlp.skipStrings_eq_ok_iff, Rlp.nextString_eq_ok_iff,
    number64_eq_ok_iff, recipient_eq_ok_iff]
  constructor
  · rintro ⟨_, ⟨leading, count, small, rfl⟩, gas, _, ⟨gasSmall, rfl⟩, _, ⟨gasFits, rfl⟩,
      address, _, ⟨addressSmall, rfl⟩, _, ⟨addressFits, rfl⟩, value, _, ⟨valueSmall, rfl⟩,
      callData, tail, ⟨callDataSmall, rfl⟩, read⟩
    cases read
    refine ⟨⟨kind, leading, gas, address, value, callData, tail⟩, rfl,
      ⟨count, gasFits, addressFits⟩, ?_, Envelope.payload_eq _, rfl⟩
    simpa [Envelope.strings, or_imp, forall_and] using
      ⟨small, gasSmall, addressSmall, valueSmall, callDataSmall⟩
  · rintro ⟨e, rfl, wellFormed, small, rfl, rfl⟩
    rw [e.payload_eq]
    simp only [Envelope.strings, List.forall_mem_append, List.forall_mem_cons] at small
    obtain ⟨leading, gas, address, value, callData, -⟩ := small
    exact ⟨_, ⟨e.leading, wellFormed.leading, leading, rfl⟩, _, _, ⟨gas, rfl⟩, _,
      ⟨wellFormed.gasLimit, rfl⟩, _, _, ⟨address, rfl⟩, _, ⟨wellFormed.recipient, rfl⟩, _, _,
      ⟨value, rfl⟩, _, _, ⟨callData, rfl⟩, rfl⟩

/-! ## The list of an envelope -/

/-- A list starts with an octet from `0xc0` on, which is no type. -/
theorem exists_encode_list (small : payload.length < 2 ^ 64) :
    ∃ first rest, Rlp.encode .list payload = first :: rest ∧ 0xc0 ≤ first.toNat := by
  have headed : Rlp.encode .list payload =
      Rlp.encodeHeader .list payload.length ++ payload := rfl
  rw [headed, Rlp.encodeHeader]
  split_ifs with short
  · refine ⟨_, _, rfl, ?_⟩
    rw [Rlp.octet_toNat] <;> simp only [Rlp.Shape.offset] <;> omega
  · have count := (Rlp.length_octets_le_iff payload.length 8).mpr small
    refine ⟨_, _, rfl, ?_⟩
    rw [Rlp.octet_toNat] <;> simp only [Rlp.Shape.offset] <;> omega

/-- What is split off in front of an envelope is the type octet of some kind. -/
theorem of_envelope (read : envelope data = .ok (leading, body)) :
    ∃ kind : Kind, leading = kind.leading ∧ data = kind.typeOctets ++ body := by
  unfold envelope at read
  split at read
  · cases read
  · split_ifs at read with accessList dynamicFee list
    · cases read
      exact ⟨.accessList, rfl, congrArg (· :: _) accessList⟩
    · cases read
      exact ⟨.dynamicFee, rfl, congrArg (· :: _) dynamicFee⟩
    · cases read
      exact ⟨.legacy, rfl, rfl⟩

theorem envelope_append (kind : Kind) (small : payload.length < 2 ^ 64) :
    envelope (kind.typeOctets ++ Rlp.encode .list payload) =
      .ok (kind.leading, Rlp.encode .list payload) := by
  cases kind with
  | legacy =>
    obtain ⟨first, rest, starts, above⟩ := exists_encode_list small
    have untyped : first ≠ 0x01 ∧ first ≠ 0x02 := by
      constructor <;> rintro rfl <;> exact absurd above (by decide)
    simp only [Kind.typeOctets, List.nil_append, starts, envelope, if_neg untyped.1,
      if_neg untyped.2, if_pos above, Kind.leading]
  | accessList => rfl
  | dynamicFee => rfl

/-- A payload is decoded from its fields if its list spans what the envelope leaves. -/
theorem decode_eq_ok_iff_item :
    decode data = .ok fields ↔ ∃ leading body payload, envelope data = .ok (leading, body) ∧
      Rlp.nextItem body = .ok ⟨.list, payload, []⟩ ∧
        readFields leading payload = .ok fields := by
  unfold decode
  rw [bind_eq_ok_iff, Prod.exists]
  refine exists₂_congr fun leading body => ?_
  rw [exists_and_left]
  refine and_congr_right fun _ => ?_
  rw [bind_eq_ok_iff]
  constructor
  · rintro ⟨⟨shape, payload, rest⟩, item, read⟩
    cases shape with
    | string => cases read
    | list =>
      cases rest with
      | cons b rest => cases read
      | nil => exact ⟨payload, mapError_eq_ok_iff.mp item, mapError_eq_ok_iff.mp read⟩
  · rintro ⟨payload, item, read⟩
    exact ⟨_, mapError_eq_ok_iff.mpr item, mapError_eq_ok_iff.mpr read⟩

/-- A payload is decoded if it is a type octet and a list of the fields of its kind. -/
theorem decode_eq_ok_iff_list :
    decode data = .ok fields ↔ ∃ (kind : Kind) (payload : List UInt8),
      payload.length < 2 ^ 64 ∧ data = kind.typeOctets ++ Rlp.encode .list payload ∧
        readFields kind.leading payload = .ok fields := by
  rw [decode_eq_ok_iff_item]
  constructor
  · rintro ⟨_, body, payload, typed, item, read⟩
    obtain ⟨kind, rfl, rfl⟩ := of_envelope typed
    obtain ⟨small, rfl⟩ := Rlp.nextItem_eq_ok_iff.mp item
    exact ⟨kind, payload, small, by rw [List.append_nil], read⟩
  · rintro ⟨kind, payload, small, rfl, read⟩
    refine ⟨_, _, payload, envelope_append kind small, ?_, read⟩
    exact Rlp.nextItem_eq_ok_iff.mpr ⟨small, (List.append_nil _).symm⟩

/-! ## Payloads in memory -/

/-- No string of an envelope is longer than its encoding. -/
theorem Envelope.encodable (e : Envelope) (inMemory : e.encode.length < 2 ^ 63) :
    e.payload.length < 2 ^ 64 ∧ e.Encodable := by
  have list := Rlp.length_le_length_encode .list e.payload
  have whole : (Rlp.encode .list e.payload).length ≤ e.encode.length := by
    rw [Envelope.encode, List.length_append]
    exact Nat.le_add_left _ _
  refine ⟨by omega, fun s member => ?_⟩
  have part := Rlp.length_le_length_encodeStrings member
  have strings : (encodeStrings e.strings).length ≤ e.payload.length := by
    rw [Envelope.payload, List.length_append]
    exact Nat.le_add_right _ _
  omega

theorem Kind.leading_inj {kind kind' : Kind} (same : kind.leading = kind'.leading) :
    kind = kind' := by
  cases kind <;> cases kind' <;> first | rfl | cases same

/-- Two well-formed envelopes with the same encoding are the same. -/
theorem Envelope.encode_inj {e e' : Envelope} (wellFormed : e.WellFormed)
    (wellFormed' : e'.WellFormed) (inMemory : e.encode.length < 2 ^ 63)
    (same : e.encode = e'.encode) : e = e' := by
  obtain ⟨small, strings⟩ := e.encodable inMemory
  obtain ⟨small', strings'⟩ := e'.encodable (same ▸ inMemory)
  have typed : envelope e.encode = _ := envelope_append e.kind small
  have typed' : envelope e'.encode = _ := envelope_append e'.kind small'
  rw [same, typed', Except.ok.injEq, Prod.mk.injEq] at typed
  obtain ⟨leading, list⟩ := typed
  have kind : e'.kind = e.kind := Kind.leading_inj leading
  have payload : e'.payload ++ [] = e.payload ++ [] := by
    rw [← List.append_nil (Rlp.encode .list e'.payload),
      ← List.append_nil (Rlp.encode .list e.payload)] at list
    obtain ⟨-, payload, -⟩ := Rlp.encode_append_inj small' small list
    rw [payload]
  rw [List.append_nil, List.append_nil, Envelope.payload, Envelope.payload] at payload
  have count : e'.leading.length = e.leading.length := by
    rw [wellFormed.leading, wellFormed'.leading, kind]
  have counts : e'.strings.length = e.strings.length := by
    simp only [Envelope.strings, List.length_append, count, List.length_cons]
  obtain ⟨all, tail⟩ := Rlp.encodeStrings_append_inj counts strings' strings payload
  obtain ⟨first, others⟩ := List.append_inj all count
  simp only [List.cons.injEq, and_true] at others
  obtain ⟨gas, address, value, callData⟩ := others
  cases e
  cases e'
  simp_all

/-- The decoder accepts well-formed envelopes and nothing else. -/
theorem decode_eq_ok_iff (inMemory : data.length < 2 ^ 63) :
    decode data = .ok fields ↔
      ∃ e : Envelope, e.WellFormed ∧ e.encode = data ∧ e.fields = fields := by
  rw [decode_eq_ok_iff_list]
  constructor
  · rintro ⟨kind, payload, -, rfl, read⟩
    obtain ⟨e, rfl, wellFormed, -, rfl, own⟩ := readFields_eq_ok_iff.mp read
    exact ⟨e, wellFormed, rfl, own⟩
  · rintro ⟨e, wellFormed, rfl, own⟩
    obtain ⟨small, strings⟩ := e.encodable inMemory
    exact ⟨e.kind, e.payload, small, rfl,
      readFields_eq_ok_iff.mpr ⟨e, rfl, wellFormed, strings, rfl, own⟩⟩

/-! ## Encoded transactions -/

namespace Message

variable {m : Message} {kind : Kind} {numbers : List Nat} {tail : List UInt8}

theorem within_wellFormed (valid : m.Valid) (count : numbers.length = kind.leading) :
    (m.within kind numbers tail).WellFormed where
  leading := by rw [within, List.length_map, count]
  gasLimit := (Rlp.length_octets_le_iff m.gasLimit 8).mpr valid.gasLimit
  recipient := by
    cases recipient : m.recipient with
    | none => exact Or.inl (by rw [within, recipient]; rfl)
    | some address =>
      refine Or.inr ?_
      rw [within, recipient]
      exact valid.recipient address recipient

/-- The numbers and the recipient are read back. -/
theorem within_fields (valid : m.Valid) : (m.within kind numbers tail).fields = m.fields := by
  have recipient : (m.within kind numbers tail).fields.recipient = m.recipient := by
    change (if m.recipient.getD [] = [] then none else some (m.recipient.getD [])) = m.recipient
    cases here : m.recipient with
    | none => rfl
    | some address =>
      have length := valid.recipient address here
      have nonempty : address ≠ [] := by
        rintro rfl
        cases length
      exact if_neg nonempty
  have gasLimit : (m.within kind numbers tail).fields.gasLimit = m.gasLimit :=
    Rlp.bigEndian_octets m.gasLimit
  have transfersValue : (m.within kind numbers tail).fields.transfersValue = decide (0 < m.value) :=
    Rlp.any_octets_ne_zero m.value
  rw [fields, ← gasLimit, ← transfersValue]
  exact congrArg (Fields.mk _ · _) recipient

theorem within_encode (m : Message) (kind : Kind) (numbers : List Nat) (tail : List UInt8) :
    (m.within kind numbers tail).encode = kind.typeOctets ++
      Rlp.encode .list (encodeNumbers numbers ++ encodeStrings m.strings ++ tail) := by
  have strings : encodeStrings (m.within kind numbers tail).strings =
      encodeNumbers numbers ++ encodeStrings m.strings := Rlp.encodeStrings_append _ _
  rw [Envelope.encode, Envelope.payload, strings]
  rfl

end Message

/-- An encoded transaction is a well-formed envelope with its own fields. -/
theorem Signed.exists_envelope (t : Signed) (valid : t.message.Valid) :
    ∃ e : Envelope, e.WellFormed ∧ e.encode = t.encode ∧ e.fields = t.message.fields := by
  cases t with
  | legacy nonce gasPrice m v r s =>
    refine ⟨m.within .legacy [nonce, gasPrice] (encodeNumbers [v, r, s]),
      Message.within_wellFormed valid rfl, ?_, Message.within_fields valid⟩
    rw [Message.within_encode, Kind.typeOctets, List.nil_append, Signed.encode]
  | accessList chainId nonce gasPrice m accesses parity r s =>
    refine ⟨m.within .accessList [chainId, nonce, gasPrice]
      (Rlp.encode .list accesses ++ encodeNumbers [parity, r, s]),
      Message.within_wellFormed valid rfl, ?_, Message.within_fields valid⟩
    rw [Message.within_encode, Kind.typeOctets, List.singleton_append, Signed.encode]
  | dynamicFee chainId nonce maxPriorityFee maxFee m accesses parity r s =>
    refine ⟨m.within .dynamicFee [chainId, nonce, maxPriorityFee, maxFee]
      (Rlp.encode .list accesses ++ encodeNumbers [parity, r, s]),
      Message.within_wellFormed valid rfl, ?_, Message.within_fields valid⟩
    rw [Message.within_encode, Kind.typeOctets, List.singleton_append, Signed.encode]

/-- A payload is decoded exactly if it is a well-formed envelope, to the fields of that envelope; it
is one in at most one way; and a signed transaction that is encoded decodes to its own fields. -/
theorem decode_iff_envelope (inMemory : data.length < 2 ^ 63) :
    (∀ fields, decode data = .ok fields ↔
        ∃ e : Envelope, e.WellFormed ∧ e.encode = data ∧ e.fields = fields) ∧
      (∀ e e' : Envelope, e.WellFormed → e'.WellFormed → e.encode = data → e'.encode = data →
        e = e') ∧
      ∀ t : Signed, t.message.Valid → t.encode = data → decode data = .ok t.message.fields := by
  refine ⟨fun fields => decode_eq_ok_iff inMemory, ?_, ?_⟩
  · rintro e e' wellFormed wellFormed' rfl same
    exact Envelope.encode_inj wellFormed wellFormed' inMemory same.symm
  · rintro t valid rfl
    exact (decode_eq_ok_iff inMemory).mpr (t.exists_envelope valid)

/-- A contract creation with a dynamic fee. The header of its list has an octet for the length. -/
theorem decode_iff_envelope_dynamicFee :
    let creation : Message := ⟨3000000, none, 0, [0xde, 0xad]⟩
    let t : Signed := .dynamicFee 298 0 2 50 creation [] 1 (2 ^ 255 + 1) (2 ^ 254 + 7)
    t.encode.length < 2 ^ 63 ∧ t.message.Valid ∧
      t.encode.take 5 = [0x02, 0xf8, 0x53, 0x82, 0x01] ∧
      decode t.encode = .ok ⟨3000000, none, false⟩ ∧
      ∃! e : Envelope, e.WellFormed ∧ e.encode = t.encode := by
  intro creation t
  have inMemory : t.encode.length < 2 ^ 63 := by decide +kernel
  have valid : t.message.Valid := ⟨by decide, fun address member => by cases member⟩
  obtain ⟨grammar, unique, signed⟩ := decode_iff_envelope inMemory
  have decoded := signed t valid rfl
  obtain ⟨e, wellFormed, same, -⟩ := (grammar _).mp decoded
  refine ⟨inMemory, valid, by decide +kernel, decoded, e, ⟨wellFormed, same⟩, ?_⟩
  rintro e' ⟨wellFormed', same'⟩
  exact unique e' e wellFormed' wellFormed same' same

end Throttling.Ethereum
