import Throttling.Document.Basic

/-!
# TOML tables under construction

A document names its tables in any order, in headers and by dotted keys, and it
must define each only once. So a table remembers how it came to be: by a header
or a pair of braces of its own, as a step on the way to another table, or as a
step in a dotted key. Only the second kind may still get a header, and only
the third may be reached by more dotted keys.
-/

set_option autoImplicit false

namespace Throttling.Toml

mutual

/-- What a key of a table stands for. -/
inductive Node where
  | value (d : Document)
  | table (t : Table)
  /-- An array of tables, of which the last can still grow. -/
  | tables (earlier : List Table) (last : Table)

structure Table where
  /-- Whether no header and no braces of its own have defined it. -/
  implicit : Bool
  /-- Whether a dotted key has defined it. -/
  dotted : Bool
  entries : List (String × Node)

end

namespace Table

def new : Table := ⟨false, false, []⟩

/-- Give a key a node, in its old place if the table has the key. -/
def put (t : Table) (key : String) (node : Node) : Table :=
  let entries :=
    if (t.entries.lookup key).isSome then
      t.entries.map fun e => if e.1 = key then (key, node) else e
    else t.entries ++ [(key, node)]
  { t with entries }

/-- Change the table at the end of a path. Tables that are missing on the way are made; a path goes
through the last table of an array. A dotted path may not pass through a table that has a definition
of its own. -/
def within (dotted : Bool) (change : Table → Option Table) : List String → Table → Option Table
  | [], t => change t
  | key :: path, t =>
    match t.entries.lookup key with
    | none =>
      (within dotted change path ⟨true, dotted, []⟩).map fun child => t.put key (.table child)
    | some (.value _) => none
    | some (.table child) =>
      if dotted && !child.implicit then none
      else (within dotted change path child).map fun child => t.put key (.table child)
    | some (.tables earlier last) =>
      (within dotted change path last).map fun last => t.put key (.tables earlier last)

/-- Give a new key a value; the steps of a dotted key before the last make up the path. -/
def insertPair (t : Table) (path : List String) (key : String) (d : Document) : Option Table :=
  t.within true (fun target =>
    if target.dotted == path.isEmpty || (target.entries.lookup key).isSome then none
    else some (target.put key (.value d))) path

def defineTable (t : Table) (path : List String) (key : String) : Option Table :=
  t.within false (fun parent =>
    match parent.entries.lookup key with
    | none => some (parent.put key (.table new))
    | some (.table child) =>
      if child.implicit && !child.dotted then
        some (parent.put key (.table { child with implicit := false }))
      else none
    | some _ => none) path

/-- Begin the next table of an array of tables by a header. -/
def defineItem (t : Table) (path : List String) (key : String) : Option Table :=
  t.within false (fun parent =>
    match parent.entries.lookup key with
    | none => some (parent.put key (.tables [] new))
    | some (.tables earlier last) => some (parent.put key (.tables (earlier ++ [last]) new))
    | some _ => none) path

end Table

mutual

def Node.toDocument : Node → Document
  | .value d => d
  | .table t => t.toDocument
  | .tables earlier last => .list (Table.toDocuments earlier ++ [last.toDocument])

def Table.toDocument : Table → Document
  | ⟨_, _, entries⟩ => .record (Node.toMembers entries)

def Table.toDocuments : List Table → List Document
  | [] => []
  | t :: rest => t.toDocument :: Table.toDocuments rest

def Node.toMembers : List (String × Node) → List (Option String × Document)
  | [] => []
  | (key, node) :: rest => (some key, node.toDocument) :: Node.toMembers rest

end

end Throttling.Toml
