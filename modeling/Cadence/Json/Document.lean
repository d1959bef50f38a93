import Cadence.Json.Reader

/-!
# Reading records

The rules by which a record is read from a document, whatever its format. A
record is a table of named fields, none of them twice, or a list of its fields
in order. Unknown fields are ignored.
-/

namespace Cadence

/-- A format whose values can be read as parts of a record. -/
class Document (ν : Type) where
  members? : ν → Option (List (String × ν))
  items? : ν → Option (List ν)
  string? : ν → Option String
  /-- An unsigned number of 64 bits. -/
  word? : ν → Option Nat
  flag? : ν → Option Bool
  /-- Whether the value stands for a missing one. -/
  isAbsent : ν → Bool
  /-- Whether the value is what a bare choice carries when it is written as a table. -/
  isBare : ν → Bool
  /-- Whether a list may go on after the last field. -/
  surplus : Bool

namespace Document

variable {ν α : Type} [Document ν]

/-- How often a name occurs. -/
def occurrences (name : String) (members : List (String × ν)) : Nat :=
  (members.filter (·.1 = name)).length

/-- The fields of a record by name. With `lenient` a list may end early. -/
def fields? (names : List String) (lenient : Bool) (x : ν) : Option (String → Option ν) :=
  match members? x with
  | some members =>
      if names.any (1 < occurrences · members) then none
      else some fun name => members.lookup name
  | none =>
      match items? x with
      | none => none
      | some items =>
          if names.length < items.length ∧ ¬ surplus ν then none
          else if items.length < names.length ∧ ¬ lenient then none
          else some fun name => (names.zip items).lookup name

def required (field : Option ν) (read : ν → Option α) : Option α := field.bind read

/-- A field that has a default. -/
def withDefault (field : Option ν) (read : ν → Option α) (default : α) : Option α :=
  match field with
  | none => some default
  | some x => read x

/-- A value that may be absent. -/
def optional? (read : ν → Option α) (x : ν) : Option (Option α) :=
  if isAbsent x then some none else (read x).map some

/-- One of several names: written as a string, or as a table with that one name. -/
def choice? (choices : List (String × α)) (x : ν) : Option α :=
  match string? x with
  | some name => choices.lookup name
  | none =>
      match members? x with
      | some [(name, payload)] => if isBare payload then choices.lookup name else none
      | _ => none

end Document

instance : Document Json where
  members?
    | .object members => some members
    | _ => none
  items?
    | .array items => some items
    | _ => none
  string?
    | .string s => some s
    | _ => none
  word?
    | .number spelling =>
        let cs := spelling.toList
        if cs.all Char.isDigit then Text.readWord? cs else none
    | _ => none
  flag?
    | .bool b => some b
    | _ => none
  isAbsent
    | .null => true
    | _ => false
  isBare
    | .null => true
    | _ => false
  surplus := false

end Cadence
