import Cadence.Json.Basic

/-!
# Reading JSON

Each reader takes what it reads off the front of the text and returns the rest.
A string may hold escapes that do not pair up to characters; where such a string
is only skipped it does no harm, so it is kept as a value of its own kind.
-/

namespace Cadence.Json

/-- A blank between the parts of a text. -/
def isBlank (c : Char) : Bool := c == ' ' || c == '\n' || c == '\t' || c == '\r'

def skipBlanks (text : List Char) : List Char := text.dropWhile isBlank

/-- A piece of a string: a character, or a code unit that was escaped. -/
inductive Piece
  | char (c : Char)
  | unit (n : Nat)

/-- The character of an escape of one letter. -/
def escapedChar? : Char → Option Char
  | '"' => some '"'
  | '\\' => some '\\'
  | '/' => some '/'
  | 'b' => some '\x08'
  | 'f' => some '\x0c'
  | 'n' => some '\n'
  | 'r' => some '\r'
  | 't' => some '\t'
  | _ => none

/-- Reads the rest of a string after its opening quote. -/
def pieces : List Char → Option (List Piece × List Char)
  | [] => none
  | '"' :: rest => some ([], rest)
  | '\\' :: 'u' :: a :: b :: c :: d :: rest => do
      let n ← Text.readDigits? 16 [a, b, c, d]
      let (more, rest) ← pieces rest
      return (.unit n :: more, rest)
  | '\\' :: e :: rest => do
      let c ← escapedChar? e
      let (more, rest) ← pieces rest
      return (.char c :: more, rest)
  | c :: rest =>
      if c.toNat < 32 then none
      else do
        let (more, rest) ← pieces rest
        return (.char c :: more, rest)

/-- The characters of the pieces, unless a surrogate stands alone. -/
def join : List Piece → Option (List Char)
  | [] => some []
  | .char c :: rest => (join rest).map (c :: ·)
  | .unit n :: rest =>
      if n < 0xD800 ∨ 0xE000 ≤ n then (join rest).map (Char.ofNat n :: ·)
      else
        match rest with
        | .unit m :: rest =>
            if n < 0xDC00 ∧ 0xDC00 ≤ m ∧ m < 0xE000 then
              (join rest).map (Char.ofNat (0x10000 + (n - 0xD800) * 0x400 + (m - 0xDC00)) :: ·)
            else none
        | _ => none

/-- Reads a string after its opening quote; `none` inside is a string that is no text. -/
def stringBody (text : List Char) : Option (Option String × List Char) :=
  (pieces text).map fun (ps, rest) => ((join ps).map String.ofList, rest)

def digits? (text : List Char) : Option (List Char × List Char) :=
  let (ds, rest) := text.span Char.isDigit
  if ds.isEmpty then none else some (ds, rest)

/-- Reads the part before the point: no leading zeros. -/
def whole? : List Char → Option (List Char × List Char)
  | '0' :: rest => some (['0'], rest)
  | text => digits? text

/-- Reads the part from the point on, if there is one. -/
def fraction? : List Char → Option (List Char × List Char)
  | '.' :: rest => (digits? rest).map fun (ds, rest) => ('.' :: ds, rest)
  | text => some ([], text)

def exponent? (text : List Char) : Option (List Char × List Char) :=
  match text with
  | e :: rest =>
      if e = 'e' ∨ e = 'E' then
        let (sign, rest) := match rest with
          | '+' :: rest => (['+'], rest)
          | '-' :: rest => (['-'], rest)
          | _ => ([], rest)
        (digits? rest).map fun (ds, rest) => (e :: sign ++ ds, rest)
      else some ([], text)
  | [] => some ([], text)

/-- Reads a number and keeps its spelling. -/
def number? (text : List Char) : Option (List Char × List Char) := do
  let (sign, text) := match text with
    | '-' :: rest => (['-'], rest)
    | _ => ([], text)
  let (whole, text) ← whole? text
  let (fraction, text) ← fraction? text
  let (exponent, text) ← exponent? text
  return (sign ++ whole ++ fraction ++ exponent, text)

/-- The members of an object with the names that are text, or nothing if one is not. -/
def named : List (Option String × Json) → Option (List (String × Json))
  | [] => some []
  | (some name, value) :: rest => (named rest).map ((name, value) :: ·)
  | (none, _) :: _ => none

mutual

/-- Reads one value. -/
def value : Nat → List Char → Option (Json × List Char)
  | 0, _ => none
  | fuel + 1, text =>
      match skipBlanks text with
      | '"' :: rest =>
          (stringBody rest).map fun (s, rest) => ((s.map Json.string).getD .garbled, rest)
      | '[' :: rest =>
          match skipBlanks rest with
          | ']' :: rest => some (.array [], rest)
          | rest => (items fuel rest).map fun (xs, rest) => (.array xs, rest)
      | '\x7b' :: rest =>
          match skipBlanks rest with
          | '\x7d' :: rest => some (.object [], rest)
          | rest =>
              (members fuel rest).map fun (ms, rest) =>
                (((named ms).map Json.object).getD .garbled, rest)
      | 'n' :: 'u' :: 'l' :: 'l' :: rest => some (.null, rest)
      | 't' :: 'r' :: 'u' :: 'e' :: rest => some (.bool true, rest)
      | 'f' :: 'a' :: 'l' :: 's' :: 'e' :: rest => some (.bool false, rest)
      | text => (number? text).map fun (n, rest) => (.number (String.ofList n), rest)

/-- Reads the items of an array up to its end; there is at least one. -/
def items : Nat → List Char → Option (List Json × List Char)
  | 0, _ => none
  | fuel + 1, text => do
      let (x, rest) ← value fuel text
      match skipBlanks rest with
      | ']' :: rest => return ([x], rest)
      | ',' :: rest => do
          let (xs, rest) ← items fuel rest
          return (x :: xs, rest)
      | _ => none

/-- Reads the members of an object up to its end; there is at least one. -/
def members : Nat → List Char → Option (List (Option String × Json) × List Char)
  | 0, _ => none
  | fuel + 1, text => do
      let name ← match skipBlanks text with
        | '"' :: rest => stringBody rest
        | _ => none
      let rest ← match skipBlanks name.2 with
        | ':' :: rest => some rest
        | _ => none
      let (x, rest) ← value fuel rest
      match skipBlanks rest with
      | '\x7d' :: rest => return ([(name.1, x)], rest)
      | ',' :: rest => do
          let (xs, rest) ← members fuel rest
          return ((name.1, x) :: xs, rest)
      | _ => none

end

/-- Reads a text that holds one value and nothing else. -/
def read? (text : String) : Option Json := do
  let cs := text.toList
  let (x, rest) ← value (2 * cs.length + 2) cs
  if (skipBlanks rest).isEmpty then return x else none

/-- The sign, the digits and the power of ten of a number's spelling. -/
def scientific (spelling : List Char) : Nat × Int × Nat :=
  let text := spelling.filter (· != '-') |>.takeWhile (fun c => c != 'e' && c != 'E')
  let whole := text.takeWhile (· != '.')
  let fraction := (text.dropWhile (· != '.')).drop 1
  let power := (spelling.dropWhile fun c => c != 'e' && c != 'E').drop 1
  let digits := power.filter Char.isDigit
  let exponent : Int := (Text.readDigits? 10 digits).getD 0
  let exponent := if power.head? = some '-' then -exponent else exponent
  ((Text.readDigits? 10 (whole ++ fraction)).getD 0, exponent - fraction.length,
    (whole ++ fraction).length)

/-- Whether a number is too large for the largest floating-point number of 64 bits. -/
def tooLarge (spelling : List Char) : Bool :=
  let (mantissa, exponent, length) := scientific spelling
  if mantissa = 0 then false
  else if exponent + length < 300 then false
  else if 700 < exponent + length then true
  else
    let limit : Nat := Nat.pow 2 1024 - Nat.pow 2 970
    if 0 ≤ exponent then limit ≤ mantissa * Nat.pow 10 exponent.toNat
    else limit * Nat.pow 10 (-exponent).toNat ≤ mantissa

mutual

/-- Whether a value can be kept for later within `depth` levels of nesting: every
string is text and every number in range. -/
def keepable (depth : Nat) : Json → Bool
  | garbled => false
  | number spelling => !tooLarge spelling.toList
  | array xs => 0 < depth && keepableItems (depth - 1) xs
  | object ms => 0 < depth && keepableMembers (depth - 1) ms
  | _ => true

def keepableItems (depth : Nat) : List Json → Bool
  | [] => true
  | x :: rest => keepable depth x && keepableItems depth rest

def keepableMembers (depth : Nat) : List (String × Json) → Bool
  | [] => true
  | (_, x) :: rest => keepable depth x && keepableMembers depth rest

end

end Cadence.Json
