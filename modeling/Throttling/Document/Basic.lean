/-!
# Documents

The value tree that both text formats denote: scalars, lists and records. A
number is kept as an integer where it is written as one; any other number is
kept as its text, since nothing in this library reads it. A literal whose
octets or escapes are no Unicode text can still be skipped, so a text node and
the name of a record member hold `none` in that case. Records keep their
members in order, repeated names included; what a repeated name means is for
the reader of the record to say.
-/

set_option autoImplicit false

namespace Throttling

inductive Document where
  | null
  | bool (value : Bool)
  | integer (value : Int)
  /-- A number that is not written as an integer. -/
  | scalar (written : String)
  | text (value : Option String)
  | list (items : List Document)
  | record (members : List (Option String × Document))
  deriving Repr, Inhabited

namespace Document

def ofString (s : String) : Document := .text (some s)

def ofNat (n : Nat) : Document := .integer n

/-- A record with plain names. -/
def ofMembers (members : List (String × Document)) : Document :=
  .record (members.map fun m => (some m.1, m.2))

def ofOption {α : Type} (write : α → Document) : Option α → Document
  | none => .null
  | some a => write a

def ofList {α : Type} (write : α → Document) (items : List α) : Document :=
  .list (items.map write)

def ofBytes (bytes : List UInt8) : Document := ofList (fun b => .ofNat b.toNat) bytes

/-- A record with a single member, as a variant with a payload is written. -/
def ofVariant (name : String) (payload : Document) : Document := ofMembers [(name, payload)]

/-- The first member of a name, in a record. -/
def get? (d : Document) (name : String) : Option Document :=
  match d with
  | .record members => members.lookup (some name)
  | _ => none

end Document

end Throttling
