import Throttling.Proofs.Steps
import Throttling.Rlp
import Mathlib.Data.Nat.Digits.Lemmas

/-!
# The canonical encoding

An item has one encoding: a header with its kind and the length of its payload, and then the
payload. A length up to 55 is in the header octet, a longer one follows it in the fewest octets, and
a string of one octet below `0x80` goes without a header. The readers of `Throttling.Rlp` accept
exactly these encodings (`nextItem_eq_ok_iff`), so no octets can be read in two ways
(`encode_append_inj`). All of it is about payloads of less than 2 ^ 64 octets: a header has no room
for the length of a longer one. The reader of headers stands for the one of the RLP library, which is
assumed to read them as the protocol describes.
-/

set_option autoImplicit false

namespace Throttling.Rlp

/-! ## Numbers in octets -/

/-- The fewest octets that stand for a number, the most significant first; none for zero. -/
def octets (n : Nat) : List UInt8 := ((Nat.digits 256 n).map UInt8.ofNat).reverse

/-- The number that octets stand for, by its digits. -/
theorem bigEndian_eq_ofDigits (bytes : List UInt8) :
    bigEndian bytes = Nat.ofDigits 256 (bytes.map UInt8.toNat).reverse := by
  induction bytes using List.reverseRecOn with
  | nil => rfl
  | append_singleton bytes b ih =>
    rw [List.map_append, List.reverse_append, List.map_singleton, List.reverse_singleton,
      List.singleton_append, Nat.ofDigits_cons, ← ih, bigEndian, List.foldl_append]
    exact (Nat.add_comm _ _).trans (congrArg _ (Nat.mul_comm _ _))

private theorem map_toNat_octets (n : Nat) :
    (octets n).map UInt8.toNat = (Nat.digits 256 n).reverse := by
  rw [octets, List.map_reverse, List.map_map]
  congr 1
  refine (List.map_congr_left fun d member => ?_).trans (List.map_id _)
  have small := Nat.digits_lt_base (by decide) member
  exact (UInt8.toNat_ofNat').trans (Nat.mod_eq_of_lt small)

theorem bigEndian_octets (n : Nat) : bigEndian (octets n) = n := by
  rw [bigEndian_eq_ofDigits, map_toNat_octets, List.reverse_reverse, Nat.ofDigits_digits]

/-- A number fits a count of octets exactly if its shortest octets do. -/
theorem length_octets_le_iff (n count : Nat) : (octets n).length ≤ count ↔ n < 256 ^ count := by
  rw [octets, List.length_reverse, List.length_map, Nat.digits_length_le_iff (by decide)]

/-- The shortest octets have no leading zero. -/
theorem head?_octets_ne (n : Nat) : (octets n).head? ≠ some 0 := by
  intro zero
  have first : (Nat.digits 256 n).reverse.head? = some 0 := by
    rw [← map_toNat_octets, List.head?_map, zero]
    rfl
  rw [List.head?_reverse] at first
  obtain ⟨nonempty, last⟩ := List.mem_getLast?_eq_getLast first
  have positive : n ≠ 0 := Nat.digits_ne_nil_iff_ne_zero.mp nonempty
  exact Nat.getLast_digit_ne_zero 256 positive last.symm

/-- The shortest octets of a number have one that is not zero exactly if the number is not. -/
theorem any_octets_ne_zero (n : Nat) : (octets n).any (· != 0) = decide (0 < n) := by
  have none : (octets n).length ≤ 0 ↔ n < 256 ^ 0 := length_octets_le_iff n 0
  have leading := head?_octets_ne n
  cases digits : octets n with
  | nil =>
    rw [digits] at none
    have zero : ¬ 0 < n := by
      have := none.mp (Nat.le_refl 0)
      omega
    simp [zero]
  | cons b bs =>
    rw [digits] at none leading
    have positive : 0 < n := by
      have := mt none.mpr (Nat.not_succ_le_zero bs.length)
      omega
    have nonzero : b ≠ 0 := fun zero => leading (congrArg some zero)
    simp [positive, nonzero]

/-- Octets without a leading zero are the shortest ones. -/
theorem octets_bigEndian {bytes : List UInt8} (canonical : bytes.head? ≠ some 0) :
    octets (bigEndian bytes) = bytes := by
  have digits : Nat.digits 256 (bigEndian bytes) = (bytes.map UInt8.toNat).reverse := by
    rw [bigEndian_eq_ofDigits]
    refine Nat.digits_ofDigits 256 (by decide) _ (fun d member => ?_) fun nonempty zero => ?_
    · obtain ⟨b, -, rfl⟩ := List.mem_map.mp (List.mem_reverse.mp member)
      exact b.toNat_lt
    · cases bytes with
      | nil => exact nonempty rfl
      | cons b bs =>
        rw [List.getLast_reverse] at zero
        exact canonical (congrArg some (UInt8.toNat_inj.mp zero))
  rw [octets, digits, List.map_reverse, List.reverse_reverse, List.map_map]
  exact (List.map_congr_left fun b _ => UInt8.ofNat_toNat).trans (List.map_id _)

/-! ## Encodings -/

/-- The header octet of an item without payload. -/
def Shape.offset : Shape → Nat
  | .string => 0x80
  | .list => 0xc0

def encodeHeader (shape : Shape) (length : Nat) : List UInt8 :=
  if length ≤ 55 then [UInt8.ofNat (shape.offset + length)]
  else UInt8.ofNat (shape.offset + 55 + (octets length).length) :: octets length

def encode : Shape → List UInt8 → List UInt8
  | .string, [b] => if b.toNat < 0x80 then [b] else [0x81, b]
  | shape, payload => encodeHeader shape payload.length ++ payload

theorem encode_itself {b : UInt8} (itself : b.toNat < 0x80) : encode .string [b] = [b] :=
  if_pos itself

theorem encode_of_headed {shape : Shape} {payload : List UInt8}
    (headed : ∀ b, shape = .string → payload = [b] → 0x80 ≤ b.toNat) :
    encode shape payload = encodeHeader shape payload.length ++ payload := by
  unfold encode
  split
  · rename_i b
    have above := headed b rfl rfl
    rw [if_neg (Nat.not_lt.mpr above)]
    rfl
  · rfl

variable {shape : Shape} {length count : Nat} {payload bytes rest : List UInt8}

/-- A length has octets of its own exactly if it is above 55 and they are the shortest. -/
theorem longHeader_eq_ok_iff {kind : Shape} :
    longHeader kind count bytes = .ok ⟨shape, length, rest⟩ ↔
      shape = kind ∧ 55 < length ∧ (octets length).length = count ∧
        bytes = octets length ++ rest := by
  unfold longHeader
  dsimp only
  constructor
  · intro read
    split_ifs at read with short zero small
    cases read
    have digits := octets_bigEndian zero
    refine ⟨rfl, Nat.lt_of_lt_of_le (by decide) (Nat.le_of_not_lt small), ?_, ?_⟩
    · rw [digits, List.length_take_of_le (Nat.le_of_not_lt short)]
    · rw [digits, List.take_append_drop]
  · rintro ⟨rfl, long, rfl, rfl⟩
    have enough : ¬ (octets length ++ rest).length < (octets length).length := by
      rw [List.length_append]
      omega
    rw [if_neg enough, List.take_left, List.drop_left, if_neg (head?_octets_ne length),
      bigEndian_octets, if_neg (Nat.not_lt.mpr long)]

def StartsBelow (bytes : List UInt8) : Prop := ∃ b ∈ bytes.head?, b.toNat < 0x80

def StartsAbove (bytes : List UInt8) : Prop := ∃ b ∈ bytes.head?, 0x80 ≤ b.toNat

theorem octet_toNat {n : Nat} (small : n < 256) : (UInt8.ofNat n).toNat = n :=
  (UInt8.toNat_ofNat').trans (Nat.mod_eq_of_lt small)

theorem octet_eq {b : UInt8} {n : Nat} (same : b.toNat = n) : b = UInt8.ofNat n := by
  rw [← same]
  exact UInt8.ofNat_toNat.symm

/-- An octet stands for itself, or it is the header octet of a kind of item. -/
theorem octet_cases (b : UInt8) :
    b.toNat < 0x80 ∨ ∃ (shape : Shape) (n : Nat), n < 64 ∧ b.toNat = shape.offset + n := by
  have small := b.toNat_lt
  by_cases itself : b.toNat < 0x80
  · exact Or.inl itself
  by_cases below : b.toNat < 0xc0
  · refine Or.inr ⟨.string, b.toNat - 0x80, by omega, ?_⟩
    simp only [Shape.offset]
    omega
  · refine Or.inr ⟨.list, b.toNat - 0xc0, by omega, ?_⟩
    simp only [Shape.offset]
    omega

section Header

variable {first : UInt8} {n : Nat}

/-- An octet below `0x80` is an item and is left in place. -/
theorem header_itself (itself : first.toNat < 0x80) (rest : List UInt8) :
    header (first :: rest) = .ok ⟨.string, 1, first :: rest⟩ := if_pos itself

/-- A short header other than `0x81` is its length. -/
theorem header_short (octet : first.toNat = shape.offset + n) (short : n ≤ 55)
    (other : shape = .string → n ≠ 1) (rest : List UInt8) :
    header (first :: rest) = .ok ⟨shape, n, rest⟩ := by
  unfold header
  dsimp only
  cases shape with
  | string =>
    have single := other rfl
    simp only [Shape.offset] at octet
    rw [if_neg (by omega), if_pos (by omega), if_neg (by omega), octet, Nat.add_sub_cancel_left]
  | list =>
    simp only [Shape.offset] at octet
    rw [if_neg (by omega), if_neg (by omega), if_neg (by omega), if_pos (by omega), octet,
      Nat.add_sub_cancel_left]

/-- The header of one octet is followed by an octet that does not stand for itself. -/
theorem header_single (octet : first.toNat = 0x81) :
    header (first :: bytes) = .ok ⟨shape, length, rest⟩ ↔
      shape = .string ∧ length = 1 ∧ rest = bytes ∧ StartsAbove bytes := by
  unfold header StartsAbove
  dsimp only
  rw [if_neg (by omega), if_pos (by omega), if_pos octet]
  cases bytes with
  | nil => simp
  | cons next bytes =>
    dsimp only
    split_ifs with below
    · simp only [List.head?_cons, Option.mem_some_iff, exists_eq_left', false_iff]
      omega
    · have above : 0x80 ≤ next.toNat := Nat.le_of_not_lt below
      simp only [Except.ok.injEq, Header.mk.injEq, List.head?_cons, Option.mem_some_iff,
        exists_eq_left', above, and_true]
      exact and_congr eq_comm (and_congr eq_comm eq_comm)

/-- A long header has the octets of its length. -/
theorem header_long (octet : first.toNat = shape.offset + n) (long : 55 < n) (small : n < 64)
    (rest : List UInt8) : header (first :: rest) = longHeader shape (n - 55) rest := by
  unfold header
  dsimp only
  cases shape with
  | string =>
    simp only [Shape.offset] at octet
    rw [if_neg (by omega), if_neg (by omega), if_pos (by omega)]
    exact congrArg (longHeader .string · rest) (by omega)
  | list =>
    simp only [Shape.offset] at octet
    rw [if_neg (by omega), if_neg (by omega), if_neg (by omega), if_neg (by omega)]
    exact congrArg (longHeader .list · rest) (by omega)

end Header

/-- A header that is read is an octet that stands for itself, or the header of its length. -/
theorem header_sound (read : header bytes = .ok ⟨shape, length, rest⟩) :
    (shape = .string ∧ length = 1 ∧ rest = bytes ∧ StartsBelow bytes) ∨
      (length < 2 ^ 64 ∧ bytes = encodeHeader shape length ++ rest ∧
        (shape = .string → length = 1 → StartsAbove rest)) := by
  cases bytes with
  | nil => cases read
  | cons first bytes =>
    obtain itself | ⟨kind, n, small, octet⟩ := octet_cases first
    · rw [header_itself itself] at read
      cases read
      exact Or.inl ⟨rfl, rfl, rfl, first, rfl, itself⟩
    right
    by_cases single : kind = .string ∧ n = 1
    · obtain ⟨rfl, rfl⟩ := single
      obtain ⟨rfl, rfl, rfl, above⟩ := (header_single octet).mp read
      exact ⟨by decide, congrArg (· :: _) (octet_eq octet), fun _ _ => above⟩
    by_cases short : n ≤ 55
    · rw [header_short octet short (fun string one => single ⟨string, one⟩)] at read
      cases read
      refine ⟨by omega, ?_, fun string one => absurd ⟨string, one⟩ single⟩
      rw [encodeHeader, if_pos short, octet_eq octet]
      rfl
    · rw [header_long octet (Nat.lt_of_not_le short) small] at read
      obtain ⟨rfl, long, count, rfl⟩ := longHeader_eq_ok_iff.mp read
      refine ⟨?_, ?_, fun _ one => ?_⟩
      · exact (length_octets_le_iff length 8).mp (by omega)
      · rw [encodeHeader, if_neg (Nat.not_le.mpr long), octet_eq octet, count]
        congr 2
        omega
      · omega

/-- The header of a length is read back, unless it is that of an octet that stands for itself. -/
theorem header_encodeHeader (small : length < 2 ^ 64)
    (above : shape = .string → length = 1 → StartsAbove rest) :
    header (encodeHeader shape length ++ rest) = .ok ⟨shape, length, rest⟩ := by
  have offset : shape.offset ≤ 0xc0 := by cases shape <;> decide
  unfold encodeHeader
  split_ifs with short
  · have octet := octet_toNat (n := shape.offset + length) (by omega)
    rw [List.singleton_append]
    by_cases single : shape = .string ∧ length = 1
    · obtain ⟨rfl, rfl⟩ := single
      exact (header_single octet).mpr ⟨rfl, rfl, rfl, above rfl rfl⟩
    · exact header_short octet short (fun string one => single ⟨string, one⟩) rest
  · have count : (octets length).length ≤ 8 := (length_octets_le_iff length 8).mpr small
    have nonzero : ¬ (octets length).length ≤ 0 := by
      rw [length_octets_le_iff]
      omega
    have octet := octet_toNat (n := shape.offset + (55 + (octets length).length)) (by omega)
    rw [Nat.add_assoc, List.cons_append, header_long octet (by omega) (by omega)]
    exact longHeader_eq_ok_iff.mpr ⟨rfl, Nat.lt_of_not_le short, by omega, rfl⟩

/-! ## Items -/

theorem length_le_length_encode (shape : Shape) (payload : List UInt8) :
    payload.length ≤ (encode shape payload).length := by
  unfold encode
  split
  · split <;> simp
  · rw [List.length_append]
    omega

/-- An item is split off where its header says that it ends. -/
theorem nextItem_eq_ok_iff_header {item : Item} :
    nextItem bytes = .ok item ↔ ∃ h, header bytes = .ok h ∧ h.length ≤ h.rest.length ∧
      item = ⟨h.shape, h.rest.take h.length, h.rest.drop h.length⟩ := by
  unfold nextItem
  cases header bytes with
  | error e => simp [bind, Except.bind]
  | ok h =>
    by_cases short : h.rest.length < h.length
    · simp [bind, Except.bind, throw, throwThe, MonadExceptOf.throw, short]
    · simp [bind, Except.bind, pure, Except.pure, short, Nat.le_of_not_lt short, eq_comm]

/-- What is split off as an item is its encoding. -/
theorem encode_of_nextItem (read : nextItem bytes = .ok ⟨shape, payload, rest⟩) :
    payload.length < 2 ^ 64 ∧ bytes = encode shape payload ++ rest := by
  obtain ⟨⟨kind, length, tail⟩, first, enough, item⟩ := nextItem_eq_ok_iff_header.mp read
  cases item
  rcases header_sound first with ⟨rfl, rfl, rfl, b, here, below⟩ | ⟨small, rfl, above⟩
  · obtain ⟨bytes, rfl⟩ := List.head?_eq_some_iff.mp here
    refine ⟨Nat.lt_of_le_of_lt (List.length_take_le 1 _) (by decide), ?_⟩
    change b :: bytes = encode .string [b] ++ bytes
    rw [encode_itself below]
    rfl
  have counted : (tail.take length).length = length := List.length_take_of_le enough
  refine ⟨by rw [counted]; exact small, ?_⟩
  rw [encode_of_headed, counted, List.append_assoc, List.take_append_drop]
  -- a payload of one octet stands where the header says that it is above 0x80
  intro b string single
  have one : length = 1 := by rw [← counted, single, List.length_singleton]
  obtain ⟨b', here, high⟩ := above string one
  obtain ⟨bytes, rfl⟩ := List.head?_eq_some_iff.mp here
  rw [one, List.take_succ_cons, List.take_zero] at single
  cases single
  exact high

/-- An encoding is split off. -/
theorem nextItem_encode (small : payload.length < 2 ^ 64) (rest : List UInt8) :
    nextItem (encode shape payload ++ rest) = .ok ⟨shape, payload, rest⟩ := by
  rw [nextItem_eq_ok_iff_header]
  by_cases bare : shape = .string ∧ ∃ b, payload = [b] ∧ b.toNat < 0x80
  · obtain ⟨rfl, b, rfl, below⟩ := bare
    rw [encode_itself below]
    exact ⟨_, header_itself below rest, Nat.succ_le_succ (Nat.zero_le _), rfl⟩
  · have headed : ∀ b, shape = .string → payload = [b] → 0x80 ≤ b.toNat := fun b string single =>
      Nat.le_of_not_lt fun below => bare ⟨string, b, single, below⟩
    rw [encode_of_headed headed, List.append_assoc]
    refine ⟨_, header_encodeHeader small fun string one => ?_, ?_, ?_⟩
    · obtain ⟨b, rfl⟩ := List.length_eq_one_iff.mp one
      exact ⟨b, rfl, headed b string rfl⟩
    · simp
    · rw [List.take_left, List.drop_left]

/-- The reader accepts the canonical encodings and nothing else. -/
theorem nextItem_eq_ok_iff :
    nextItem bytes = .ok ⟨shape, payload, rest⟩ ↔
      payload.length < 2 ^ 64 ∧ bytes = encode shape payload ++ rest := by
  constructor
  · exact encode_of_nextItem
  · rintro ⟨small, rfl⟩
    exact nextItem_encode small rest

/-- Octets have one reading as an item. -/
theorem encode_append_inj {shape' : Shape} {payload' rest' : List UInt8}
    (small : payload.length < 2 ^ 64) (small' : payload'.length < 2 ^ 64)
    (same : encode shape payload ++ rest = encode shape' payload' ++ rest') :
    shape = shape' ∧ payload = payload' ∧ rest = rest' := by
  have read : nextItem (encode shape payload ++ rest) = .ok ⟨shape, payload, rest⟩ :=
    nextItem_encode small rest
  rw [same, nextItem_encode small' rest'] at read
  cases read
  exact ⟨rfl, rfl, rfl⟩

/-! ## Strings -/

def encodeStrings (fields : List (List UInt8)) : List UInt8 := fields.flatMap (encode .string)

@[simp] theorem encodeStrings_nil : encodeStrings [] = [] := rfl

@[simp] theorem encodeStrings_cons (field : List UInt8) (fields : List (List UInt8)) :
    encodeStrings (field :: fields) = encode .string field ++ encodeStrings fields := rfl

@[simp] theorem encodeStrings_append (fields more : List (List UInt8)) :
    encodeStrings (fields ++ more) = encodeStrings fields ++ encodeStrings more :=
  List.flatMap_append

theorem nextString_eq_ok_iff :
    nextString bytes = .ok (payload, rest) ↔
      payload.length < 2 ^ 64 ∧ bytes = encode .string payload ++ rest := by
  rw [← nextItem_eq_ok_iff]
  unfold nextString
  cases nextItem bytes with
  | error e => simp [bind, Except.bind]
  | ok item =>
    obtain ⟨kind, payload', rest'⟩ := item
    cases kind <;> simp [bind, Except.bind, pure, Except.pure, throw, throwThe,
      MonadExceptOf.throw]

/-- A number of strings is skipped exactly if the octets start with that many encodings. -/
theorem skipStrings_eq_ok_iff :
    skipStrings count bytes = .ok rest ↔
      ∃ fields : List (List UInt8), fields.length = count ∧
        (∀ field ∈ fields, field.length < 2 ^ 64) ∧ bytes = encodeStrings fields ++ rest := by
  induction count generalizing bytes with
  | zero => simp [skipStrings, eq_comm]
  | succ count ih =>
    unfold skipStrings
    constructor
    · intro read
      obtain ⟨⟨field, tail⟩, first, skipped⟩ := bind_eq_ok_iff.mp read
      obtain ⟨small, rfl⟩ := nextString_eq_ok_iff.mp first
      obtain ⟨fields, rfl, others, rfl⟩ := ih.mp skipped
      refine ⟨field :: fields, rfl, List.forall_mem_cons.mpr ⟨small, others⟩, ?_⟩
      rw [encodeStrings_cons, List.append_assoc]
    · rintro ⟨fields, length, small, rfl⟩
      cases fields with
      | nil => cases length
      | cons field fields =>
        obtain ⟨first, others⟩ := List.forall_mem_cons.mp small
        have read : nextString (encode .string field ++ (encodeStrings fields ++ rest)) =
            .ok (field, encodeStrings fields ++ rest) := nextString_eq_ok_iff.mpr ⟨first, rfl⟩
        rw [encodeStrings_cons, List.append_assoc, read]
        exact ih.mpr ⟨fields, Nat.succ.inj length, others, rfl⟩

/-- Octets have one reading as a number of strings. -/
theorem encodeStrings_append_inj {fields fields' : List (List UInt8)} {rest' : List UInt8}
    (count : fields.length = fields'.length) (small : ∀ field ∈ fields, field.length < 2 ^ 64)
    (small' : ∀ field ∈ fields', field.length < 2 ^ 64)
    (same : encodeStrings fields ++ rest = encodeStrings fields' ++ rest') :
    fields = fields' ∧ rest = rest' := by
  induction fields generalizing fields' with
  | nil =>
    cases fields' with
    | nil => exact ⟨rfl, same⟩
    | cons field' fields' => cases count
  | cons field fields ih =>
    cases fields' with
    | nil => cases count
    | cons field' fields' =>
      obtain ⟨first, others⟩ := List.forall_mem_cons.mp small
      obtain ⟨first', others'⟩ := List.forall_mem_cons.mp small'
      rw [encodeStrings_cons, encodeStrings_cons, List.append_assoc, List.append_assoc] at same
      obtain ⟨-, rfl, tails⟩ := encode_append_inj first first' same
      obtain ⟨rfl, rfl⟩ := ih (Nat.succ.inj count) others others' tails
      exact ⟨rfl, rfl⟩

theorem length_le_length_encodeStrings {field : List UInt8} {fields : List (List UInt8)}
    (member : field ∈ fields) : field.length ≤ (encodeStrings fields).length := by
  induction fields with
  | nil => cases member
  | cons first others ih =>
    rw [encodeStrings_cons, List.length_append]
    rcases List.mem_cons.mp member with rfl | later
    · have := length_le_length_encode .string field
      omega
    · have := ih later
      omega

end Throttling.Rlp
