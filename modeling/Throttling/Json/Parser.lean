import Throttling.Document.Reader
import Throttling.Text.Digits

/-!
# Reading JSON

Strict JSON over octets: no comments, no trailing commas, nothing after the
value but white space. A string literal may hold any octets but controls, and
becomes a text if those and its escapes denote Unicode; escapes for surrogates
must come in pairs. A number is an integer node if it has neither a fraction nor
an exponent and is not minus zero.
-/

set_option autoImplicit false

namespace Throttling.Json

@[match_pattern] abbrev quote : UInt8 := 0x22
@[match_pattern] abbrev comma : UInt8 := 0x2c
@[match_pattern] abbrev minus : UInt8 := 0x2d
@[match_pattern] abbrev colon : UInt8 := 0x3a
@[match_pattern] abbrev openList : UInt8 := 0x5b
@[match_pattern] abbrev backslash : UInt8 := 0x5c
@[match_pattern] abbrev closeList : UInt8 := 0x5d
@[match_pattern] abbrev letterU : UInt8 := 0x75
@[match_pattern] abbrev openRecord : UInt8 := 0x7b
@[match_pattern] abbrev closeRecord : UInt8 := 0x7d

def isBlank (b : UInt8) : Bool := b == 0x20 || b == 0x09 || b == 0x0a || b == 0x0d

def skipBlank (bytes : List UInt8) : List UInt8 := bytes.dropWhile isBlank

/-- The octets after a text that must come first. -/
def after? (text : String) (bytes : List UInt8) : Option (List UInt8) :=
  let octets := text.toUTF8.toList
  if bytes.take octets.length = octets then some (bytes.drop octets.length) else none

/-- A piece of a string literal: an octet as it stands, or the code unit of an escape. -/
inductive Piece where
  | octet (b : UInt8)
  | unit (code : Nat)

def escape? (b : UInt8) : Option UInt8 :=
  match Char.ofNat b.toNat with
  | '"' => some 0x22
  | '\\' => some 0x5c
  | '/' => some 0x2f
  | 'b' => some 0x08
  | 'f' => some 0x0c
  | 'n' => some 0x0a
  | 'r' => some 0x0d
  | 't' => some 0x09
  | _ => none

def codeUnit? (digits : List UInt8) : Option Nat :=
  Text.numeral? 16 (digits.map fun b => Char.ofNat b.toNat)

/-- The pieces of a string literal up to the closing quote, and what follows it. -/
def pieces : List UInt8 → Option (List Piece × List UInt8)
  | [] => none
  | quote :: rest => some ([], rest)
  | backslash :: letterU :: a :: b :: c :: d :: rest => do
    let code ← codeUnit? [a, b, c, d]
    let (more, rest) ← pieces rest
    return (.unit code :: more, rest)
  | backslash :: b :: rest => do
    let octet ← escape? b
    let (more, rest) ← pieces rest
    return (.octet octet :: more, rest)
  | b :: rest => do
    if b < 0x20 then none
    let (more, rest) ← pieces rest
    return (.octet b :: more, rest)

def isHighSurrogate (code : Nat) : Bool := decide (0xd800 ≤ code ∧ code < 0xdc00)

def isLowSurrogate (code : Nat) : Bool := decide (0xdc00 ≤ code ∧ code < 0xe000)

def octetsOf (code : Nat) : List UInt8 := (String.singleton (Char.ofNat code)).toUTF8.toList

/-- The octets that pieces denote; `none` for a surrogate without its partner. -/
def assemble : List Piece → Option (List UInt8)
  | [] => some []
  | .octet b :: rest => do return b :: (← assemble rest)
  | .unit code :: rest =>
    if isHighSurrogate code then
      match rest with
      | .unit low :: rest =>
        if isLowSurrogate low then do
          let point := 0x10000 + (code - 0xd800) * 0x400 + (low - 0xdc00)
          return octetsOf point ++ (← assemble rest)
        else none
      | _ => none
    else if isLowSurrogate code then none
    else do return octetsOf code ++ (← assemble rest)

def textOf (ps : List Piece) : Option String := do
  String.fromUTF8? ⟨(← assemble ps).toArray⟩

/-- Reads a string literal after its opening quote. -/
def literal (bytes : List UInt8) : Option (Option String × List UInt8) := do
  let (ps, rest) ← pieces bytes
  return (textOf ps, rest)

/-- Whether a text is empty or an exponent: a letter, an optional sign, and digits. -/
def isExponent : List Char → Bool
  | [] => true
  | e :: rest =>
    let digits :=
      match rest with
      | '+' :: ds => ds
      | '-' :: ds => ds
      | ds => ds
    (e == 'e' || e == 'E') && !digits.isEmpty && digits.all Char.isDigit

/-- Whether a text is an optional fraction and an optional exponent. -/
def isFraction : List Char → Bool
  | '.' :: rest =>
    let (digits, rest) := rest.span Char.isDigit
    !digits.isEmpty && isExponent rest
  | rest => isExponent rest

/-- The node of a number without its sign. Zeros may not lead. -/
def unsigned? (negative : Bool) (cs : List Char) : Option Document :=
  let (digits, rest) := cs.span Char.isDigit
  let written := .scalar (String.ofList (if negative then '-' :: cs else cs))
  if digits.isEmpty || (digits.length > 1 && digits.head? == some '0') || !isFraction rest then none
  else if !rest.isEmpty then some written
  else
    match Text.numeral? 10 digits with
    | none => none
    | some 0 => some (if negative then written else .integer 0)
    | some n => some (.integer (if negative then -(n : Int) else n))

def isNumberOctet (b : UInt8) : Bool :=
  (Char.ofNat b.toNat).isDigit || [0x2b, 0x2d, 0x2e, 0x45, 0x65].contains b

def number (bytes : List UInt8) : Option (Document × List UInt8) := do
  let (octets, rest) := bytes.span isNumberOctet
  let cs := octets.map fun b => Char.ofNat b.toNat
  let d ←
    match cs with
    | '-' :: cs => unsigned? true cs
    | cs => unsigned? false cs
  return (d, rest)

/-- Reads a literal name, `true` say, that stands for a node. -/
def name (bytes : List UInt8) : Option (Document × List UInt8) :=
  match after? "null" bytes with
  | some rest => some (.null, rest)
  | none =>
    match after? "true" bytes with
    | some rest => some (.bool true, rest)
    | none => (after? "false" bytes).map (.bool false, ·)

mutual

/-- Reads a value. The first argument bounds the number of steps. -/
def value : Nat → List UInt8 → Option (Document × List UInt8)
  | 0, _ => none
  | steps + 1, bytes =>
    match skipBlank bytes with
    | [] => none
    | quote :: rest => (literal rest).map fun l => (.text l.1, l.2)
    | openList :: rest =>
      match skipBlank rest with
      | closeList :: rest => some (.list [], rest)
      | rest => (items steps rest).map fun l => (.list l.1, l.2)
    | openRecord :: rest =>
      match skipBlank rest with
      | closeRecord :: rest => some (.record [], rest)
      | rest => (members steps rest).map fun l => (.record l.1, l.2)
    | b :: rest => if isNumberOctet b then number (b :: rest) else name (b :: rest)

def items : Nat → List UInt8 → Option (List Document × List UInt8)
  | 0, _ => none
  | steps + 1, bytes => do
    let (d, rest) ← value steps bytes
    match skipBlank rest with
    | comma :: rest =>
      let (ds, rest) ← items steps rest
      return (d :: ds, rest)
    | closeList :: rest => return ([d], rest)
    | _ => none

def members : Nat → List UInt8 → Option (List (Option String × Document) × List UInt8)
  | 0, _ => none
  | steps + 1, bytes => do
    let quote :: rest := skipBlank bytes | none
    let (key, rest) ← literal rest
    let colon :: rest := skipBlank rest | none
    let (d, rest) ← value steps rest
    match skipBlank rest with
    | comma :: rest =>
      let (ds, rest) ← members steps rest
      return ((key, d) :: ds, rest)
    | closeRecord :: rest => return ([(key, d)], rest)
    | _ => none

end

/-- Reads a whole text. A value takes at most two steps for each octet. -/
def parse? (bytes : List UInt8) : Option Document := do
  let (d, rest) ← value (2 * bytes.length + 2) bytes
  if (skipBlank rest).isEmpty then some d else none

/-- How values are read from JSON: to a depth of 127, lists no longer than the record they stand
for, and null as the payload of a variant that has none. -/
def format : Format where
  levels := 127
  surplusItems := false
  isVoid d :=
    match d with
    | .null => true
    | _ => false

def readBytes {α : Type} (read : Reader α) (bytes : List UInt8) : Option α := do
  read format (← parse? bytes)

def readText {α : Type} (read : Reader α) (text : String) : Option α :=
  readBytes read text.toUTF8.toList

end Throttling.Json
