import Throttling.Document.Basic

/-!
# Writing JSON

Documents as compact JSON text. Quotes, backslashes and controls are escaped;
every other character is written as it is.
-/

set_option autoImplicit false

namespace Throttling.Json

def escaped (c : Char) : List Char :=
  if c = '"' then ['\\', '"']
  else if c = '\\' then ['\\', '\\']
  else if c.toNat < 0x20 then
    ['\\', 'u', '0', '0', Nat.digitChar (c.toNat / 16), Nat.digitChar (c.toNat % 16)]
  else [c]

/-- A string literal. A text that is none is written as an empty one. -/
def quoted (text : Option String) : String :=
  String.ofList ('"' :: ((text.getD "").toList.flatMap escaped) ++ ['"'])

mutual

def render : Document → String
  | .null => "null"
  | .bool true => "true"
  | .bool false => "false"
  | .integer n => toString n
  | .scalar written => written
  | .text value => quoted value
  | .list items => "[" ++ renderItems items ++ "]"
  | .record members => "\x7b" ++ renderMembers members ++ "\x7d"

def renderItems : List Document → String
  | [] => ""
  | [d] => render d
  | d :: ds => render d ++ "," ++ renderItems ds

def renderMembers : List (Option String × Document) → String
  | [] => ""
  | [(name, d)] => quoted name ++ ":" ++ render d
  | (name, d) :: ds => quoted name ++ ":" ++ render d ++ "," ++ renderMembers ds

end

end Throttling.Json
