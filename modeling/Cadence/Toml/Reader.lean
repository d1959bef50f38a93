import Cadence.Toml.Scalar

/-!
# Reading TOML

A document is a sequence of lines: blank ones, headers, and keys with values.
Values may nest; the depth of their nesting and the length of keys are bounded.
-/

namespace Cadence.Toml

/-- The depth at which values no longer nest, and the length at which keys end. -/
def depthLimit : Nat := 80

/-- Whether a character may stand in a key without quotes. -/
def isKeyChar (c : Char) : Bool := c.isAlphanum || c == '_' || c == '-'

def keyPart? (text : List Char) : Option (String × List Char) :=
  match text with
  | '"' :: rest => (basic (rest.length + 1) rest).map fun (s, rest) => (String.ofList s, rest)
  | '\'' :: rest => (literal rest).map fun (s, rest) => (String.ofList s, rest)
  | _ =>
      let name := text.takeWhile isKeyChar
      if name.isEmpty then none else some (String.ofList name, text.drop name.length)

/-- Reads the parts of a key, with the blanks around them. -/
def keyParts : Nat → List Char → Option (List String × List Char)
  | 0, _ => none
  | fuel + 1, text => do
      let (part, rest) ← keyPart? (skipBlanks text)
      match skipBlanks rest with
      | '.' :: rest => do
          let (parts, rest) ← keyParts fuel rest
          return (part :: parts, rest)
      | rest => return ([part], rest)

/-- Reads a key: the parts before the last one, and the last. -/
def key? (text : List Char) : Option (List String × String × List Char) := do
  let (parts, rest) ← keyParts (depthLimit - 1) text
  let last ← parts.getLast?
  return (parts.dropLast, last, rest)

/-- The text after a comment, if one is in front. -/
def skipComment? (text : List Char) : Option (List Char) :=
  match text with
  | '#' :: rest =>
      let rest := rest.dropWhile isPlain
      if rest.isEmpty ∨ (lineEnd? rest).isSome then some rest else none
  | _ => some text

/-- Drops blanks, comments and line ends. -/
def skipAll : Nat → List Char → Option (List Char)
  | 0, text => some text
  | fuel + 1, text => do
      let rest ← skipComment? (skipBlanks text)
      match lineEnd? rest with
      | some rest => skipAll fuel rest
      | none => some rest

mutual

/-- Reads a value; `depth` is how much deeper values may nest. -/
def value : Nat → Nat → List Char → Option (Toml × List Char)
  | 0, _, _ => none
  | fuel + 1, depth, text =>
      match text with
      | '"' :: _ | '\'' :: _ => (string? text).map fun (s, rest) => (.string s, rest)
      | '[' :: rest =>
          if depth = 0 then none
          else (items fuel (depth - 1) rest).map fun (xs, rest) => (.array xs, rest)
      | '\x7b' :: rest => do
          if depth = 0 then none
          match skipBlanks rest with
          | '\x7d' :: rest => return (.table .complete [], rest)
          | rest =>
              (pairs fuel (depth - 1) [] rest).map fun (ms, rest) => (.table .complete ms, rest)
      | 't' :: 'r' :: 'u' :: 'e' :: rest => some (.boolean true, rest)
      | 'f' :: 'a' :: 'l' :: 's' :: 'e' :: rest => some (.boolean false, rest)
      | _ => number? text

/-- Reads the items of an array up to its end. -/
def items : Nat → Nat → List Char → Option (List Toml × List Char)
  | 0, _, _ => none
  | fuel + 1, depth, text => do
      match ← skipAll text.length text with
      | ']' :: rest => return ([], rest)
      | rest => do
          let (x, rest) ← value fuel depth rest
          match ← skipAll rest.length rest with
          | ',' :: rest => do
              let (xs, rest) ← items fuel depth rest
              return (x :: xs, rest)
          | ']' :: rest => return ([x], rest)
          | _ => none

/-- Reads the members of a table between braces up to its end; there is at least one. -/
def pairs : Nat → Nat → Members → List Char → Option (Members × List Char)
  | 0, _, _, _ => none
  | fuel + 1, depth, members, text => do
      let (path, key, rest) ← key? text
      let rest ← expect? '=' rest
      let (x, rest) ← value fuel depth (skipBlanks rest)
      let members ← putDotted path key x .complete members
      match skipBlanks rest with
      | ',' :: rest => pairs fuel depth members rest
      | '\x7d' :: rest => return (members, rest)
      | _ => none

end

/-- A document that is being read: its values so far and the header under which
the next ones go. -/
structure Reading where
  root : Members := []
  header : List String := []

/-- The text after a header's closing brackets. -/
def closeHeader? (brackets : Nat) (text : List Char) : Option (List Char) :=
  if text.take brackets = List.replicate brackets ']' then some (text.drop brackets) else none

/-- Reads a header after its brackets. -/
def header? (r : Reading) (brackets : Nat)
    (enter : Members → List String → String → Option Members) (text : List Char) :
    Option (Reading × List Char) := do
  let (path, key, rest) ← key? text
  let rest ← closeHeader? brackets rest
  let root ← enter r.root path key
  return ({ root, header := path ++ [key] }, rest)

def pair? (r : Reading) (text : List Char) : Option (Reading × List Char) := do
  let (path, key, rest) ← key? text
  let rest ← expect? '=' rest
  let (x, rest) ← value (2 * rest.length + 2) (depthLimit - 1) (skipBlanks rest)
  let root ← putUnder r.root r.header path key x
  return ({ r with root }, rest)

/-- Reads what stands on a line before its comment. -/
def line? (r : Reading) (text : List Char) : Option (Reading × List Char) :=
  match text with
  | '[' :: '[' :: rest => header? r 2 beginItem rest
  | '[' :: rest => header? r 1 beginTable rest
  | _ =>
      if text.isEmpty ∨ text.head? = some '#' ∨ (lineEnd? text).isSome then some (r, text)
      else pair? r text

/-- Reads the lines of a document. -/
def lines : Nat → Reading → List Char → Option Members
  | 0, _, _ => none
  | fuel + 1, r, text => do
      let (r, rest) ← line? r (skipBlanks text)
      let rest ← skipComment? (skipBlanks rest)
      if rest.isEmpty then return r.root
      else lines fuel r (← lineEnd? rest)

/-- The text without a byte order mark in front. -/
def dropMark : List Char → List Char
  | '\ufeff' :: rest => rest
  | text => text

def read? (text : String) : Option Toml :=
  let cs := dropMark text.toList
  (lines (cs.length + 1) {} cs).map (.table .headed)

end Cadence.Toml
