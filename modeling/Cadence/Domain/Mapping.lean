import Cadence.Domain.MappingTable
import Cadence.Text.Rows

/-!
# Mapping of domain names

Before a name is looked at, each character is kept, dropped, replaced by others
or refused. Capital letters become small ones and compatibility forms their plain
ones, so names that people hold for equal become equal.
-/

namespace Cadence.Domain

open Text (Row unpack hexField packedRows rowOf? labelOf)

/-- What becomes of the characters of a run. -/
inductive MappingRule
  | keep
  | drop
  /-- Every other character, beginning with the first, becomes the one after it. -/
  | pairs
  | shift (delta : Int)
  | replace (text : List Char)

def MappingRule.ofLabel (label : String) : MappingRule :=
  match label.toList with
  | ['v'] => .keep
  | ['i'] => .drop
  | ['p'] => .pairs
  | '+' :: digits => .shift ((Text.readDigits? 16 digits).getD 0)
  | '-' :: digits => .shift (-((Text.readDigits? 16 digits).getD 0 : Nat))
  | _ => .replace ((label.splitOn ".").map fun field => Char.ofNat (hexField 0 field))

def mappingTable : List Row := unpack mappingRows

/-- What a character becomes, or nothing if it is refused. -/
def mapChar? (c : Char) : Option (List Char) :=
  if c.toNat < 128 then some [c.toLower]
  else
    (rowOf? mappingTable c).map fun row =>
      match MappingRule.ofLabel row.label with
      | .keep => [c]
      | .drop => []
      | .pairs => if (c.toNat - row.first) % 2 = 0 then [Char.ofNat (c.toNat + 1)] else [c]
      | .shift delta => [Char.ofNat (c.toNat + delta).toNat]
      | .replace text => text

/-- The characters that a name becomes, or nothing if one is refused. -/
def mapName? (name : List Char) : Option (List Char) :=
  (name.mapM mapChar?).map List.flatten

/-- Whether a character stands for itself. -/
def isPlain (c : Char) : Bool := mapChar? c == some [c]

end Cadence.Domain
