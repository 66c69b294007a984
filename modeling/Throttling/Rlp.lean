/-!
# RLP items

Recursive length prefix encoding, one item at a time. An item is a string of
octets or a list, and its header gives the length of its payload. Reading
accepts the canonical header only: an octet below `0x80` stands for itself, a
length up to 55 is part of the first octet, and a longer one follows it in the
fewest big-endian octets. Each reader returns what is left of the input.

The reader of headers stands for the one of the RLP library that envelopes are
decoded with. That library is assumed to read headers as the protocol describes.
-/

set_option autoImplicit false

namespace Throttling.Rlp

inductive Error where
  | overflow | leadingZero | inputTooShort | nonCanonicalByte | nonCanonicalSize
  | unexpectedLength | unexpectedString | unexpectedList
  deriving DecidableEq, Repr

def Error.message : Error → String
  | overflow => "overflow"
  | leadingZero => "leading zero"
  | inputTooShort => "input too short"
  | nonCanonicalByte => "non-canonical single byte"
  | nonCanonicalSize => "non-canonical size"
  | unexpectedLength => "unexpected length"
  | unexpectedString => "unexpected string"
  | unexpectedList => "unexpected list"

inductive Shape where
  | string | list
  deriving DecidableEq, Repr

/-- A header: the kind of item, the length of its payload, and the octets that follow. -/
structure Header where
  shape : Shape
  length : Nat
  rest : List UInt8
  deriving DecidableEq, Repr

structure Item where
  shape : Shape
  payload : List UInt8
  rest : List UInt8
  deriving DecidableEq, Repr

/-- The number that octets stand for, the most significant first. -/
def bigEndian (bytes : List UInt8) : Nat := bytes.foldl (fun value b => value * 256 + b.toNat) 0

/-- The header of an item whose length stands in `count` octets of its own. -/
def longHeader (shape : Shape) (count : Nat) (bytes : List UInt8) : Except Error Header :=
  if bytes.length < count then .error .inputTooShort
  else
    let digits := bytes.take count
    let length := bigEndian digits
    if digits.head? = some 0 then .error .leadingZero
    else if length < 56 then .error .nonCanonicalSize
    else .ok ⟨shape, length, bytes.drop count⟩

/-- Reads the header of the next item. An octet that stands for itself is left in `rest`. -/
def header (bytes : List UInt8) : Except Error Header :=
  match bytes with
  | [] => .error .inputTooShort
  | first :: rest =>
    let b := first.toNat
    if b < 0x80 then .ok ⟨.string, 1, bytes⟩
    else if b < 0xb8 then
      if b = 0x81 then
        match rest with
        | [] => .error .inputTooShort
        | next :: _ =>
          if next.toNat < 0x80 then .error .nonCanonicalByte else .ok ⟨.string, 1, rest⟩
      else .ok ⟨.string, b - 0x80, rest⟩
    else if b < 0xc0 then longHeader .string (b - 0xb7) rest
    else if b < 0xf8 then .ok ⟨.list, b - 0xc0, rest⟩
    else longHeader .list (b - 0xf7) rest

def nextItem (bytes : List UInt8) : Except Error Item := do
  let h ← header bytes
  if h.rest.length < h.length then throw .inputTooShort
  return ⟨h.shape, h.rest.take h.length, h.rest.drop h.length⟩

/-- Splits the next item off, which must be a string; returns its payload and what is left. -/
def nextString (bytes : List UInt8) : Except Error (List UInt8 × List UInt8) := do
  let item ← nextItem bytes
  match item.shape with
  | .string => return (item.payload, item.rest)
  | .list => throw .unexpectedList

def skipStrings : Nat → List UInt8 → Except Error (List UInt8)
  | 0, bytes => .ok bytes
  | n + 1, bytes => do
    let (_, rest) ← nextString bytes
    skipStrings n rest

/-- A number of at most eight octets. Zeros in front are allowed. -/
def number64 (bytes : List UInt8) : Except Error Nat :=
  if 8 < bytes.length then .error .overflow else .ok (bigEndian bytes)

end Throttling.Rlp
