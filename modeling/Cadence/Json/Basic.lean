import Cadence.Text.Decimal

/-!
# JSON values and their compact text

A value keeps the order and the repetitions of its members and the spelling of
its numbers. The compact text has no blanks; inside strings a quote, a backslash
and the control characters below the blank are escaped and all else stands as it
is.
-/

namespace Cadence

inductive Json
  | null
  | bool (b : Bool)
  | number (spelling : String)
  | string (s : String)
  /-- A string or an object name whose escapes do not make characters. -/
  | garbled
  | array (items : List Json)
  | object (members : List (String × Json))
deriving Inhabited

namespace Json

/-- One character inside a string. -/
def escape (c : Char) : List Char :=
  match c with
  | '"' => ['\\', '"']
  | '\\' => ['\\', '\\']
  | '\n' => ['\\', 'n']
  | '\r' => ['\\', 'r']
  | '\t' => ['\\', 't']
  | '\x08' => ['\\', 'b']
  | '\x0c' => ['\\', 'f']
  | c =>
      if c.toNat < 32 then ['\\', 'u'] ++ Text.hexPadded 4 c.toNat else [c]

/-- A string with its quotes. -/
def quote (s : String) : String :=
  "\"" ++ String.ofList (s.toList.flatMap escape) ++ "\""

mutual

def render : Json → String
  | null => "null"
  | bool b => if b then "true" else "false"
  | number spelling => spelling
  | string s => quote s
  | garbled => "null"
  | array items => "[" ++ ",".intercalate (renderItems items) ++ "]"
  | object members => "\x7b" ++ ",".intercalate (renderMembers members) ++ "\x7d"

def renderItems : List Json → List String
  | [] => []
  | item :: rest => render item :: renderItems rest

def renderMembers : List (String × Json) → List String
  | [] => []
  | (name, value) :: rest => (quote name ++ ":" ++ render value) :: renderMembers rest

end

def nat (n : Nat) : Json := .number (Text.decimal n)

end Json

end Cadence
