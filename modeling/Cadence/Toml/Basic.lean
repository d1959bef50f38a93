import Cadence.Json.Document

/-!
# TOML values

The values of a TOML document. A table remembers how it came to be, because that
decides what may still be added to it. Numbers with a fraction and moments in
time keep their spelling: nothing here computes with them.
-/

namespace Cadence

/-- How a table came to be. -/
inductive Toml.Form
  /-- It was written between braces and is complete. -/
  | complete
  /-- It has a header of its own. -/
  | headed
  /-- It is above a table that has a header. -/
  | implied
  /-- It is above a dotted key. -/
  | dotted
deriving DecidableEq

inductive Toml
  | string (s : String)
  | integer (n : Int)
  | float (spelling : String)
  | boolean (b : Bool)
  | moment (spelling : String)
  | array (items : List Toml)
  | table (form : Toml.Form) (members : List (String × Toml))
  /-- Tables that were each begun by a header of the same name, last one last. -/
  | tables (items : List (List (String × Toml)))
deriving Inhabited

namespace Toml

/-- The named values of a table. -/
abbrev Members := List (String × Toml)

instance : Document Toml where
  members?
    | .table _ members => some members
    | _ => none
  items?
    | .array items => some items
    | .tables items => some (items.map (.table .headed))
    | _ => none
  string?
    | .string s => some s
    | _ => none
  word?
    | .integer (.ofNat n) => if n ≤ Text.maxWord then some n else none
    | _ => none
  flag?
    | .boolean b => some b
    | _ => none
  isAbsent _ := false
  isBare
    | .table _ [] | .array [] | .tables [] => true
    | _ => false
  surplus := true

/-- Puts a value in the place of a name. -/
def setMember (members : Members) (key : String) (x : Toml) : Members :=
  if (members.lookup key).isSome then
    members.map fun (k, old) => if k = key then (k, x) else (k, old)
  else members ++ [(key, x)]

/-- Changes the table at the end of a path by `change`, which may refuse. Missing
tables on the way are made in the form `fresh`; a dotted path must not lead into a
table that is headed or complete. -/
def changeAt (fresh : Form) (change : Form → Members → Option Members) (form : Form)
    (members : Members) : List String → Option Members
  | [] => change form members
  | key :: rest =>
      match members.lookup key with
      | none =>
          (changeAt fresh change fresh [] rest).map fun inner =>
            setMember members key (.table fresh inner)
      | some (.table .complete _) => none
      | some (.table f inner) =>
          if fresh = .dotted ∧ f = .headed then none
          else (changeAt fresh change f inner rest).map fun inner =>
            setMember members key (.table f inner)
      | some (.tables items) =>
          match items.getLast? with
          | some last =>
              (changeAt fresh change .headed last rest).map fun last =>
                setMember members key (.tables (items.dropLast ++ [last]))
          | none => none
      | some _ => none

/-- Adds a value under a dotted key. A table that has a key added to it by a dotted
path has to be a dotted one. -/
def putDotted (path : List String) (key : String) (x : Toml) (form : Form)
    (members : Members) : Option Members :=
  changeAt .dotted (fun f inner =>
    if path ≠ [] ∧ f ≠ .dotted then none
    else if (inner.lookup key).isSome then none
    else some (inner ++ [(key, x)])) form members path

def beginTable (root : Members) (path : List String) (key : String) : Option Members :=
  changeAt .implied (fun _ members =>
    match members.lookup key with
    | none => some (members ++ [(key, .table .headed [])])
    | some (.table .implied inner) => some (setMember members key (.table .headed inner))
    | some _ => none) .headed root path

/-- Begins one more table of an array of tables by its header. -/
def beginItem (root : Members) (path : List String) (key : String) : Option Members :=
  changeAt .implied (fun _ members =>
    match members.lookup key with
    | none => some (members ++ [(key, .tables [[]])])
    | some (.tables items) => some (setMember members key (.tables (items ++ [[]])))
    | some _ => none) .headed root path

/-- Adds a value to the table that the last header began. -/
def putUnder (root : Members) (header path : List String) (key : String) (x : Toml) :
    Option Members :=
  changeAt .implied (fun form members => putDotted path key x form members) .headed root header

end Toml

end Cadence
