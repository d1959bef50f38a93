import Cadence.Text.Decimal

/-!
# Quoted text

The form in which a text stands inside a description of a value: between double
quotes, with a quote, a backslash and every control character escaped.
-/

namespace Cadence.Text

/-- One character inside double quotes. -/
def escaped (c : Char) : List Char :=
  match c with
  | '"' => ['\\', '"']
  | '\\' => ['\\', '\\']
  | '\n' => ['\\', 'n']
  | '\r' => ['\\', 'r']
  | '\t' => ['\\', 't']
  | '\x00' => ['\\', '0']
  | c =>
      if c.toNat < 32 ∨ (127 ≤ c.toNat ∧ c.toNat < 160) then
        ['\\', 'u', '\x7b'] ++ Nat.toDigits 16 c.toNat ++ ['\x7d']
      else [c]

def quoted (text : String) : String :=
  "\"" ++ String.ofList (text.toList.flatMap escaped) ++ "\""

end Cadence.Text
