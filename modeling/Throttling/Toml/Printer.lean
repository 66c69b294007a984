import Throttling.Document.Basic
import Throttling.Word

/-!
# Writing TOML

A record of sections as a TOML document: each section under its header, a line
for each key, an empty line between sections. A list of two items or more takes
a line for each. Integers must fit the signed 64 bits that TOML has for them;
texts are names and factors, which need no escapes.
-/

set_option autoImplicit false

namespace Throttling.Toml

/-- A scalar; `none` for an integer out of range and for a node that is no scalar. -/
def renderScalar : Document → Option String
  | .bool true => some "true"
  | .bool false => some "false"
  | .integer n => if Word.minSigned64 ≤ n ∧ n ≤ Word.maxSigned64 then some (toString n) else none
  | .text value => value.map fun s => "\"" ++ s ++ "\""
  | _ => none

def renderValue : Document → Option String
  | .list items => do
    let written ← items.mapM renderScalar
    match written with
    | [] => return "[]"
    | [item] => return "[" ++ item ++ "]"
    | items => return "[\n" ++ String.join (items.map fun item => "    " ++ item ++ ",\n") ++ "]"
  | d => renderScalar d

/-- The line, or lines, of a key. -/
def renderKey (name : String) (d : Document) : Option String := do
  return name ++ " = " ++ (← renderValue d) ++ "\n"

def renderKeys : List (Option String × Document) → Option String
  | [] => some ""
  | (name, d) :: rest => do return (← renderKey (← name) d) ++ (← renderKeys rest)

def renderSection (name : String) : Document → Option String
  | .record members => do return "[" ++ name ++ "]\n" ++ (← renderKeys members)
  | _ => none

def renderSections : List (Option String × Document) → Option (List String)
  | [] => some []
  | (name, d) :: rest => do return (← renderSection (← name) d) :: (← renderSections rest)

def render? : Document → Option String
  | .record members => (renderSections members).map fun parts => "\n".intercalate parts
  | _ => none

end Throttling.Toml
