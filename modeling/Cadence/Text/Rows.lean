import Cadence.Text.Decimal

/-!
# Packed tables

A table of runs of code points is packed into lines of text: the rows of a line
are divided by blanks, and a row is the gap before it, its length and its label,
divided by commas. Numbers are hexadecimal; a gap left out is zero and a length left out is
one.
-/

namespace Cadence.Text

/-- A run of code points with a label. -/
structure Row where
  first : Nat
  last : Nat
  label : String

/-- A hexadecimal number, or `default` for no digits. -/
def hexField (default : Nat) (field : String) : Nat :=
  (readDigits? 16 field.toList).getD default

/-- Unpacks rows that start at `start` or later. -/
def unpackFrom (start : Nat) : List String → List Row
  | [] => []
  | row :: rest =>
      match row.splitOn "," with
      | gap :: length :: label =>
          let first := start + hexField 0 gap
          let next := first + hexField 1 length
          ⟨first, next - 1, ",".intercalate label⟩ :: unpackFrom next rest
      | _ => unpackFrom start rest

/-- The rows of packed lines. -/
def packedRows (lines : List String) : List String := lines.flatMap (·.splitOn " ")

def unpack (lines : List String) : List Row := unpackFrom 0 (packedRows lines)

/-- The row that a character falls into, in a table of rows that ascend. -/
def rowOf? (rows : List Row) (c : Char) : Option Row :=
  (rows.find? fun r => c.toNat ≤ r.last).filter fun r => r.first ≤ c.toNat

/-- The label of a character, empty outside of all rows. -/
def labelOf (rows : List Row) (c : Char) : String :=
  ((rowOf? rows c).map (·.label)).getD ""

end Cadence.Text
