import Throttling.Document.Basic
import Throttling.Word

/-!
# Reading typed values from documents

A reader takes a node and either yields a value or refuses the node. Records are
read by the names of their fields: members of other names are skipped, and a
field that appears twice is refused. A record may also be given as the list of
its fields in order. Variants are given by name alone, or as a record whose one
member is named for the variant and holds its payload.

Text formats differ in three things, which `Format` gathers: how deep the nodes
that are read may be nested, whether a list may go on after the fields of a
record, and how the payload of a variant without one is spelt.
-/

set_option autoImplicit false

namespace Throttling

/-- What reading depends on besides the node. -/
structure Format where
  /-- Levels of nesting that may be entered from here. -/
  levels : Nat
  /-- Whether a record given as a list may be followed by more items. -/
  surplusItems : Bool
  /-- Whether a node spells the payload of a variant that has none. -/
  isVoid : Document → Bool

/-- Reads a value from a node; `none` refuses it. -/
def Reader (α : Type) : Type := Format → Document → Option α

namespace Reader

/-- Enter a list or record: one level of nesting fewer is left inside. -/
def enter {α : Type} (read : Reader α) : Reader α := fun f d =>
  match f.levels with
  | 0 => none
  | levels + 1 => read { f with levels } d

def bool : Reader Bool
  | _, .bool value => some value
  | _, _ => none

/-- An integer between limits, both included. -/
def integerIn (low high : Int) : Reader Int
  | _, .integer value => if low ≤ value ∧ value ≤ high then some value else none
  | _, _ => none

def natBelow (limit : Nat) : Reader Nat
  | _, .integer (.ofNat value) => if value < limit then some value else none
  | _, _ => none

def nat64 : Reader Nat := natBelow UInt64.size

def nat32 : Reader Nat := natBelow UInt32.size

def int64 : Reader Int := integerIn Word.minSigned64 Word.maxSigned64

def octet : Reader UInt8 := fun f d => (natBelow 256 f d).map UInt8.ofNat

def text : Reader String
  | _, .text value => value
  | _, _ => none

/-- A text that stands for a value. -/
def textOf {α : Type} (parse? : String → Option α) : Reader α := fun f d => do
  parse? (← text f d)

/-- A value, or null for none. -/
def optional {α : Type} (read : Reader α) : Reader (Option α)
  | _, .null => some none
  | f, d => (read f d).map some

def list {α : Type} (read : Reader α) : Reader (List α) :=
  enter fun f d =>
    match d with
    | .list items => items.mapM (read f)
    | _ => none

def bytes : Reader (List UInt8) := list octet

/-- The fields of a record, as far as they were given. -/
structure Fields where
  format : Format
  /-- Whether they were given by name; otherwise they were given in order. -/
  named : Bool
  given : List (String × Document)

namespace Fields

/-- The members of a record that are fields. A name that is no text is refused, and so is a field
that is given twice. -/
def ofMembers (names : List String) :
    List (Option String × Document) → Option (List (String × Document))
  | [] => some []
  | (none, _) :: _ => none
  | (some name, d) :: rest => do
    let given ← ofMembers names rest
    if name ∈ names then
      if (given.lookup name).isSome then none else some ((name, d) :: given)
    else some given

def ofDocument (names : List String) : Reader Fields
  | f, .record members => (ofMembers names members).map (⟨f, true, ·⟩)
  | f, .list items =>
    if items.length ≤ names.length ∨ f.surplusItems then some ⟨f, false, names.zip items⟩ else none
  | _, _ => none

def required {α : Type} (fs : Fields) (name : String) (read : Reader α) : Option α :=
  match fs.given.lookup name with
  | some d => read fs.format d
  | none => none

/-- A field with a default, which also stands in for it at the end of a list. -/
def defaulted {α : Type} (fs : Fields) (name : String) (read : Reader α) (default : α) : Option α :=
  match fs.given.lookup name with
  | some d => read fs.format d
  | none => some default

/-- A field that may be null, or left out of a record. A list must give it. -/
def optional {α : Type} (fs : Fields) (name : String) (read : Reader α) : Option (Option α) :=
  match fs.given.lookup name with
  | some d => Reader.optional read fs.format d
  | none => if fs.named then some none else none

end Fields

/-- A record with fields of these names, in order. -/
def record {α : Type} (names : List String) (build : Fields → Option α) : Reader α :=
  enter fun f d => do build (← Fields.ofDocument names f d)

/-- A variant: its name, and its payload if it has one. -/
def variant {α : Type} (plain : String → Option α) (loaded : String → Option (Reader α)) :
    Reader α := fun f d =>
  match d with
  | .text name => do plain (← name)
  | _ =>
    enter (fun f d =>
      match d with
      | .record [(some name, payload)] =>
        match loaded name with
        | some read => read f payload
        | none => if f.isVoid payload then plain name else none
      | _ => none) f d

end Reader

end Throttling
