import Cadence.Event
import Cadence.Text.Blank
import Cadence.Text.Pattern

/-!
# Directives

A filter is a list of directives, divided by commas. A directive names a target,
a span with fields in brackets, and after an equals sign the finest level that is
let through: `target[span{field=value}]=level`. Each part may be left out.
-/

namespace Cadence.Logging

/-- A field that a span must have, perhaps with a value that matches a pattern. -/
structure FieldDirective where
  name : String
  value : Option String := none
deriving DecidableEq

/-- What is let through: `level` is the rank of the finest level, zero for none. -/
structure Directive where
  level : Nat := 5
  target : Option String := none
  span : Option String := none
  fields : List FieldDirective := []
deriving DecidableEq

/-- The rank of a level's name or number. -/
def rank? (text : List Char) : Option Nat :=
  match (Text.readWord? text).filter (· ≤ 5) with
  | some n => some n
  | none =>
      match String.ofList (text.map Char.toLower) with
      | "off" => some 0
      | "error" => some 1
      | "warn" => some 2
      | "info" => some 3
      | "debug" => some 4
      | "trace" => some 5
      | _ => none

/-- Whether a value is a plain one, which is no pattern. -/
def isPlainValue (value : List Char) : Bool :=
  let digits := match value with
    | '-' :: rest | '+' :: rest => rest
    | _ => value
  value = "true".toList || value = "false".toList || (Text.readDigits? 10 digits).isSome

/-- Reads a field: a name and perhaps a value after an equals sign. -/
def FieldDirective.read? (text : List Char) : Option FieldDirective :=
  match text.splitOn '=' with
  | name :: value :: _ =>
      if isPlainValue value || (Text.Pattern.read? value).isSome then
        some { name := String.ofList name, value := some (String.ofList value) }
      else none
  | _ => if text.isEmpty then none else some { name := String.ofList text }

/-- Whether a field's value matches. Plain values match no text. -/
def FieldDirective.matchesText (f : FieldDirective) (text : String) : Bool :=
  match f.value with
  | none => true
  | some value =>
      !isPlainValue value.toList
        && ((Text.Pattern.read? value.toList).map (·.finds text.toList)).getD false

/-- A text without its first bytes, unless they end inside a character. -/
def dropBytes : Nat → List Char → Option (List Char)
  | 0, text => some text
  | _ + 1, [] => none
  | n + 1, c :: rest => if c.utf8Size ≤ n + 1 then dropBytes (n + 1 - c.utf8Size) rest else none

/-- The first bytes of a text, unless they end inside a character. -/
def takeBytes : Nat → List Char → Option (List Char)
  | 0, _ => some []
  | _ + 1, [] => none
  | n + 1, c :: rest =>
      if c.utf8Size ≤ n + 1 then (takeBytes (n + 1 - c.utf8Size) rest).map (c :: ·) else none

/-- The bytes of a text from one offset to another. -/
def slice (text : List Char) (begun ended : Nat) : Option (List Char) :=
  (dropBytes begun text).bind (takeBytes (ended - begun))

/-- Where a directive is being read; an offset is where the current part began. -/
inductive Place
  | start
  | name (begun : Nat)
  | span (begun : Nat)
  | field (begun : Nat)
  | afterFields
  | afterSpan
  | level (begun : Nat)
deriving DecidableEq

/-- A directive that is being read out of `item`. -/
structure Draft where
  item : List Char
  directive : Directive := {}
  place : Place := .start
  offset : Nat := 0

namespace Draft

def part (d : Draft) (begun : Nat) : Option (List Char) := slice d.item begun d.offset

def takeTarget (d : Draft) (begun : Nat) (next : Place) : Option Draft :=
  (d.part begun).map fun text =>
    { d with directive := { d.directive with target := some (String.ofList text) }, place := next }

def takeSpan (d : Draft) (begun : Nat) (emptyCounts : Bool) (next : Place) : Option Draft :=
  (d.part begun).map fun text =>
    let span := if text.isEmpty && !emptyCounts then none else some (String.ofList text)
    { d with directive := { d.directive with span }, place := next }

def takeField (d : Draft) (begun : Nat) (next : Place) : Option Draft :=
  ((d.part begun).bind FieldDirective.read?).map fun field =>
    { d with
      directive := { d.directive with fields := d.directive.fields ++ [field] }
      place := next }

def begins (c : Char) : Bool := c == '-' || c == ':' || c == '_' || Text.isLetterOrNumber c

def next? (d : Draft) (c : Char) : Option Draft :=
  let d' := match d.place with
    | .start =>
        if c = '[' then some { d with place := .span (d.offset + 1) }
        else if begins c then some { d with place := .name d.offset }
        else none
    | .name begun =>
        if c = '=' then d.takeTarget begun (.level (d.offset + 1))
        else if c = '[' then d.takeTarget begun (.span (d.offset + 1))
        else some d
    | .span begun =>
        if c = ']' then d.takeSpan begun true .afterSpan
        else if c = '\x7b' then d.takeSpan begun false (.field (d.offset + 1))
        else some d
    | .field begun =>
        if c = '\x7d' then d.takeField begun .afterFields
        else if c = ',' then d.takeField begun (.field (d.offset + 1))
        else some d
    | .afterFields => if c = ']' then some { d with place := .afterSpan } else none
    | .afterSpan => if c = '=' then some { d with place := .level (d.offset + 1) } else none
    | .level _ => some d
  d'.map fun d' => { d' with offset := d.offset + c.utf8Size }

/-- The directive at the end of the text. A name alone is a level or a target. -/
def finish? (d : Draft) : Option Directive :=
  match d.place with
  | .name begun =>
      (dropBytes begun d.item).map fun text =>
        match rank? text with
        | some level => { d.directive with level }
        | none => { d.directive with target := some (String.ofList text) }
  | .level begun => do
      let text ← dropBytes begun d.item
      if text.isEmpty then return { d.directive with level := 5 }
      else return { d.directive with level := ← rank? text }
  | .afterSpan => some d.directive
  | _ => none

end Draft

/-- Reads a directive. Its parts are told apart without the blanks around it, but
are cut out with them. -/
def Directive.read? (item : List Char) : Option Directive :=
  ((Text.trim item).foldlM Draft.next? { item }).bind Draft.finish?

/-- Reads a list of directives; empty ones are left out. -/
def readDirectives? (text : String) : Option (List Directive) :=
  ((text.toList.splitOn ',').filter (!·.isEmpty)).mapM Directive.read?

end Cadence.Logging
