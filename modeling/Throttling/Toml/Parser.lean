import Throttling.Document.Reader
import Throttling.Toml.Scalar
import Throttling.Toml.Table

/-!
# Reading TOML

TOML 1.0: comments, key lines, headers of tables and of arrays of tables.
Arrays and inline tables may be nested 79 deep, and a dotted key has at most 79
parts.
-/

set_option autoImplicit false

namespace Throttling.Toml

/-- Levels of arrays and inline tables, and parts of a dotted key. -/
def depthLimit : Nat := 79

def skipComment : List Char → List Char
  | '#' :: rest => rest.dropWhile isPlain
  | cs => cs

/-- The text after blanks, comments and line breaks. The first argument bounds the steps. -/
def skipVoid : Nat → List Char → List Char
  | 0, cs => cs
  | steps + 1, cs =>
    let rest := skipComment (skipBlank cs)
    match newline? rest with
    | some rest => skipVoid steps rest
    | none => rest

/-- The text after the end of a line: blanks, perhaps a comment, and a line break unless the text
ends. -/
def endLine (cs : List Char) : Option (List Char) :=
  match skipComment (skipBlank cs) with
  | [] => some []
  | rest => newline? rest

def isBareKeyChar (c : Char) : Bool := c.isAlphanum || c == '-' || c == '_'

def keyPart (cs : List Char) : Option (String × List Char) :=
  let quoted (quote : Char) (escapes : Bool) (rest : List Char) : Option (String × List Char) := do
    let (cs, rest) ← lineString quote escapes (rest.length + 1) rest
    return (String.ofList cs, rest)
  match cs with
  | '"' :: rest => quoted '"' true rest
  | '\'' :: rest => quoted '\'' false rest
  | cs =>
    let (bare, rest) := cs.span isBareKeyChar
    if bare.isEmpty then none else some (String.ofList bare, rest)

/-- Reads a dotted key of at most so many parts: the path and the last part. -/
def dottedKey : Nat → List Char → Option ((List String × String) × List Char)
  | 0, _ => none
  | parts + 1, cs => do
    let (part, rest) ← keyPart (skipBlank cs)
    match skipBlank rest with
    | '.' :: rest =>
      let ((path, key), rest) ← dottedKey parts rest
      return ((part :: path, key), rest)
    | rest => return (([], part), rest)

def key (cs : List Char) : Option ((List String × String) × List Char) := dottedKey depthLimit cs

mutual

/-- Reads a value. The first argument bounds the steps, the second the levels of nesting. -/
def value : Nat → Nat → List Char → Option (Document × List Char)
  | 0, _, _ => none
  | steps + 1, levels, cs =>
    match cs with
    | [] => none
    | '[' :: rest =>
      if levels = 0 then none
      else (items steps (levels - 1) (skipVoid rest.length rest)).map fun l => (.list l.1, l.2)
    | '\x7b' :: rest =>
      if levels = 0 then none
      else
        match skipBlank rest with
        | '\x7d' :: rest => some (.record [], rest)
        | _ => (pairs steps (levels - 1) Table.new rest).map fun t => (t.1.toDocument, t.2)
    | c :: _ =>
      if c = '"' || c = '\'' then (string cs).map fun s => (.ofString s.1, s.2)
      else if c = '+' || c = '-' || c.isDigit then number cs
      else if c = 'i' || c = 'n' then float cs
      else bool cs

def items : Nat → Nat → List Char → Option (List Document × List Char)
  | 0, _, _ => none
  | _ + 1, _, ']' :: rest => some ([], rest)
  | steps + 1, levels, cs => do
    let (d, rest) ← value steps levels cs
    match skipVoid rest.length rest with
    | ',' :: rest =>
      let (ds, rest) ← items steps levels (skipVoid rest.length rest)
      return (d :: ds, rest)
    | ']' :: rest => return ([d], rest)
    | _ => none

def pairs : Nat → Nat → Table → List Char → Option (Table × List Char)
  | 0, _, _, _ => none
  | steps + 1, levels, t, cs => do
    let ((path, name), rest) ← key cs
    let '=' :: rest := rest | none
    let (d, rest) ← value steps levels (skipBlank rest)
    let t ← t.insertPair path name d
    match skipBlank rest with
    | ',' :: rest => pairs steps levels t rest
    | '\x7d' :: rest => return (t, rest)
    | _ => none

end

def lineValue (cs : List Char) : Option (Document × List Char) :=
  let rest := skipBlank cs
  value (2 * rest.length + 2) depthLimit rest

/-- Reads lines to the end of the text. The root table and the path of the section that key lines
belong to come in between; the first argument bounds the number of lines. -/
def lines : Nat → Table → List String → List Char → Option Table
  | 0, _, _, _ => none
  | count + 1, root, here, cs =>
    match skipBlank cs with
    | [] => some root
    | '[' :: '[' :: rest => do
      let ((path, name), rest) ← key rest
      let ']' :: ']' :: rest := rest | none
      lines count (← root.defineItem path name) (path ++ [name]) (← endLine rest)
    | '[' :: rest => do
      let ((path, name), rest) ← key rest
      let ']' :: rest := rest | none
      lines count (← root.defineTable path name) (path ++ [name]) (← endLine rest)
    | c :: rest =>
      if c = '#' || c = '\n' || c = '\r' then do lines count root here (← endLine (c :: rest))
      else do
        let ((path, name), rest) ← key (c :: rest)
        let '=' :: rest := rest | none
        let (d, rest) ← lineValue rest
        let root ← root.within false (fun t => t.insertPair path name d) here
        lines count root here (← endLine rest)

/-- Reads a whole text, which a byte order mark may begin. -/
def parse? (text : String) : Option Document :=
  let cs :=
    match text.toList with
    | '\ufeff' :: rest => rest
    | cs => cs
  (lines (cs.length + 1) Table.new [] cs).map Table.toDocument

/-- How values are read from TOML: the parser bounds the nesting, a record may be given as an array
that goes on after its fields, and something empty is the payload of a variant that has none. -/
def format : Format where
  levels := depthLimit + depthLimit
  surplusItems := true
  isVoid d :=
    match d with
    | .list [] => true
    | .record [] => true
    | _ => false

def readText {α : Type} (read : Reader α) (text : String) : Option α := do
  read format (← parse? text)

end Throttling.Toml
