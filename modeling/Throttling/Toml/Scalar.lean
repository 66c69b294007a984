import Throttling.Document.Basic
import Throttling.Text.Digits
import Throttling.Word

/-!
# TOML scalars

Strings, numbers, dates and times of TOML 1.0, read from the front of a text.
Each reader returns the value and what follows it. Integers have 64 bits with a
sign. Other numbers keep their text only, and must not round to infinity unless
they are negative or spelt `inf`.
-/

set_option autoImplicit false

namespace Throttling.Toml

def isBlank (c : Char) : Bool := c == ' ' || c == '\t'

def skipBlank (cs : List Char) : List Char := cs.dropWhile isBlank

def newline? : List Char → Option (List Char)
  | '\n' :: rest => some rest
  | '\r' :: '\n' :: rest => some rest
  | _ => none

/-- A character that may stand in a comment or a string: no control but the tab. -/
def isPlain (c : Char) : Bool := c == '\t' || (0x20 ≤ c.toNat && c.toNat != 0x7f)

/-- The text after spaces, tabs and line breaks. The first argument bounds the steps. -/
def skipLines : Nat → List Char → List Char
  | 0, cs => cs
  | steps + 1, cs =>
    match newline? (skipBlank cs) with
    | some rest => skipLines steps rest
    | none => skipBlank cs

/-- The character that an escape with hexadecimal digits stands for. -/
def scalar? (digits : List Char) : Option Char := do
  let code ← Text.numeral? 16 digits
  if code.isValidChar then some (Char.ofNat code) else none

def escape? : Char → Option Char
  | '"' => some '"'
  | '\\' => some '\\'
  | 'b' => some '\x08'
  | 'f' => some '\x0c'
  | 'n' => some '\n'
  | 'r' => some '\r'
  | 't' => some '\t'
  | _ => none

/-- A character given by so many hexadecimal digits. -/
def coded (count : Nat) (cs : List Char) : Option (Char × List Char) :=
  if cs.length < count then none
  else do return (← scalar? (cs.take count), cs.drop count)

def escape : List Char → Option (Char × List Char)
  | 'u' :: rest => coded 4 rest
  | 'U' :: rest => coded 8 rest
  | c :: rest => do return (← escape? c, rest)
  | [] => none

/-- The rest of a string on one line, up to its closing quote. -/
def lineString (quote : Char) (escapes : Bool) : Nat → List Char → Option (List Char × List Char)
  | 0, _ => none
  | _ + 1, [] => none
  | steps + 1, c :: rest =>
    if c = quote then some ([], rest)
    else if c = '\\' && escapes then do
      let (c, rest) ← escape rest
      let (cs, rest) ← lineString quote escapes steps rest
      return (c :: cs, rest)
    else if isPlain c then do
      let (cs, rest) ← lineString quote escapes steps rest
      return (c :: cs, rest)
    else none

/-- The rest of a string over several lines, up to its three closing quotes. One or two quotes may
stand anywhere in it, its end included. A backslash at the end of a line skips to the next text. -/
def blockString (quote : Char) (escapes : Bool) : Nat → List Char → Option (List Char × List Char)
  | 0, _ => none
  | _ + 1, [] => none
  | steps + 1, c :: rest =>
    if c = quote then
      let count := 1 + (rest.takeWhile (· == quote)).length
      if count < 3 then do
        let (cs, rest) ← blockString quote escapes steps (rest.drop (count - 1))
        return (List.replicate count quote ++ cs, rest)
      else
        let inside := min (count - 3) 2
        some (List.replicate inside quote, rest.drop (inside + 2))
    else if c = '\\' && escapes then
      match newline? (skipBlank rest) with
      | some after => blockString quote escapes steps (skipLines after.length after)
      | none => do
        let (c, rest) ← escape rest
        let (cs, rest) ← blockString quote escapes steps rest
        return (c :: cs, rest)
    else
      match newline? (c :: rest) with
      | some after => do
        let (cs, rest) ← blockString quote escapes steps after
        return ('\n' :: cs, rest)
      | none =>
        if isPlain c then do
          let (cs, rest) ← blockString quote escapes steps rest
          return (c :: cs, rest)
        else none

/-- Reads a string. A line break right after three opening quotes is no part of it. -/
def string (cs : List Char) : Option (String × List Char) :=
  let steps := cs.length + 1
  let block (quote : Char) (escapes : Bool) (rest : List Char) : Option (String × List Char) := do
    let body := (newline? rest).getD rest
    let (cs, rest) ← blockString quote escapes steps body
    return (String.ofList cs, rest)
  let line (quote : Char) (escapes : Bool) (rest : List Char) : Option (String × List Char) := do
    let (cs, rest) ← lineString quote escapes steps rest
    return (String.ofList cs, rest)
  match cs with
  | '"' :: '"' :: '"' :: rest => block '"' true rest
  | '\'' :: '\'' :: '\'' :: rest => block '\'' false rest
  | '"' :: rest => line '"' true rest
  | '\'' :: rest => line '\'' false rest
  | _ => none

/-- Digits of a base with single underscores between them. The underscores are dropped. -/
def digits (base : Nat) : List Char → Option (List Char × List Char)
  | [] => none
  | c :: rest =>
    if (Text.digitValue? base c).isNone then none
    else
      match rest with
      | '_' :: rest => do
        let (cs, rest) ← digits base rest
        return (c :: cs, rest)
      | rest =>
        match digits base rest with
        | some (cs, rest) => some (c :: cs, rest)
        | none => some ([c], rest)

def sign : List Char → Bool × List Char
  | '-' :: rest => (true, rest)
  | '+' :: rest => (false, rest)
  | cs => (false, cs)

/-- Decimal digits without a zero in front of others. -/
def decimalDigits : List Char → Option (List Char × List Char)
  | '0' :: rest => some (['0'], rest)
  | cs => digits 10 cs

def integerNode (i : Int) : Option Document :=
  if Word.minSigned64 ≤ i ∧ i ≤ Word.maxSigned64 then some (.integer i) else none

def basedInteger (base : Nat) (cs : List Char) : Option (Document × List Char) := do
  let (ds, rest) ← digits base cs
  return (← integerNode (← Text.numeral? base ds), rest)

def integer (cs : List Char) : Option (Document × List Char) :=
  match cs with
  | '0' :: 'x' :: rest => basedInteger 16 rest
  | '0' :: 'o' :: rest => basedInteger 8 rest
  | '0' :: 'b' :: rest => basedInteger 2 rest
  | _ => do
    let (negative, rest) := sign cs
    let (ds, rest) ← decimalDigits rest
    let n ← Text.numeral? 10 ds
    return (← integerNode (if negative then -(n : Int) else n), rest)

/-- Whether `mantissa · 10 ^ exponent` rounds to infinity as a binary64 number. -/
def roundsToInfinity (mantissa : Nat) (exponent : Int) : Bool :=
  let size : Int := (toString mantissa).length + exponent
  if mantissa = 0 || size < 300 then false
  else if 320 < size then true
  else
    -- halfway between the largest finite number and the next one that 53 bits would give
    let limit := 0x3FFFFFFFFFFFFF <<< 970
    if exponent < 0 then decide (limit * Nat.pow 10 (-exponent).toNat ≤ mantissa)
    else decide (limit ≤ mantissa * Nat.pow 10 exponent.toNat)

def exponent : List Char → Option (Int × List Char)
  | c :: rest =>
    if c = 'e' || c = 'E' then do
      let (negative, rest) := sign rest
      let (ds, rest) ← digits 10 rest
      let n ← Text.numeral? 10 ds
      return (if negative then -(n : Int) else n, rest)
    else none
  | [] => none

def fraction : List Char → Option (List Char × List Char)
  | '.' :: rest => digits 10 rest
  | _ => none

/-- Reads a number with a fraction, an exponent or both, or one of the special numbers. -/
def float (cs : List Char) : Option (Document × List Char) := do
  let (negative, rest) := sign cs
  match rest with
  | 'i' :: 'n' :: 'f' :: rest => return (.scalar "inf", rest)
  | 'n' :: 'a' :: 'n' :: rest => return (.scalar "nan", rest)
  | _ => do
    let (whole, rest) ← decimalDigits rest
    let (part, rest, fractional) :=
      match fraction rest with
      | some (ds, rest) => (ds, rest, true)
      | none => ([], rest, false)
    let (power, rest, exponential) :=
      match exponent rest with
      | some (e, rest) => (e, rest, true)
      | none => (0, rest, false)
    if !fractional && !exponential then none
    let mantissa ← Text.numeral? 10 (whole ++ part)
    if !negative && roundsToInfinity mantissa (power - part.length) then none
    return (.scalar (String.ofList (cs.take (cs.length - rest.length))), rest)

/-- A number of exactly so many digits, within limits. -/
def fixedDigits (count low high : Nat) (cs : List Char) : Option (Nat × List Char) := do
  let ds := cs.take count
  if ds.length < count then none
  let n ← Text.numeral? 10 ds
  if low ≤ n ∧ n ≤ high then some (n, cs.drop count) else none

def after? (c : Char) : List Char → Option (List Char)
  | [] => none
  | d :: rest => if c = d then some rest else none

def daysOfMonth (year month : Nat) : Nat :=
  if month = 2 then
    if year % 4 = 0 ∧ (year % 100 ≠ 0 ∨ year % 400 = 0) then 29 else 28
  else if [4, 6, 9, 11].contains month then 30
  else 31

def date? (cs : List Char) : Option (List Char) := do
  let (year, rest) ← fixedDigits 4 0 9999 cs
  let (month, rest) ← fixedDigits 2 1 12 (← after? '-' rest)
  let (_, rest) ← fixedDigits 2 1 (daysOfMonth year month) (← after? '-' rest)
  return rest

/-- The text after a time of day; the sixtieth second is allowed for. -/
def time? (cs : List Char) : Option (List Char) := do
  let (_, rest) ← fixedDigits 2 0 23 cs
  let (_, rest) ← fixedDigits 2 0 59 (← after? ':' rest)
  let (_, rest) ← fixedDigits 2 0 60 (← after? ':' rest)
  match rest with
  | '.' :: more =>
    let (ds, rest') := more.span Char.isDigit
    return if ds.isEmpty then rest else rest'
  | _ => return rest

def skipOffset (cs : List Char) : List Char :=
  match cs with
  | 'Z' :: rest => rest
  | 'z' :: rest => rest
  | c :: rest =>
    if c = '+' || c = '-' then
      let read : Option (List Char) := do
        let (_, rest) ← fixedDigits 2 0 23 rest
        let (_, rest) ← fixedDigits 2 0 59 (← after? ':' rest)
        return rest
      read.getD cs
    else cs
  | [] => []

def skipTime (cs : List Char) : List Char :=
  match cs with
  | c :: rest =>
    if c = 'T' || c = 't' || c = ' ' then ((time? rest).map skipOffset).getD cs else cs
  | [] => []

/-- Reads a date, a time, or both. Nothing here uses its value, so it becomes a record of one member
that no reader asks for. -/
def dateTime (cs : List Char) : Option (Document × List Char) :=
  let node : Document := .ofMembers [("datetime", .null)]
  match date? cs with
  | some rest => some (node, skipTime rest)
  | none => (time? cs).map fun rest => (node, rest)

def number (cs : List Char) : Option (Document × List Char) :=
  (dateTime cs <|> float cs) <|> integer cs

def bool : List Char → Option (Document × List Char)
  | 't' :: 'r' :: 'u' :: 'e' :: rest => some (.bool true, rest)
  | 'f' :: 'a' :: 'l' :: 's' :: 'e' :: rest => some (.bool false, rest)
  | _ => none

end Throttling.Toml
