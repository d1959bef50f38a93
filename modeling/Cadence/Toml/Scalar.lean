import Cadence.Json.Reader
import Cadence.Toml.Basic

/-!
# Scalars of TOML

Strings in their four styles, numbers and moments in time. A reader takes what it
reads off the front of the text and returns the rest.
-/

namespace Cadence.Toml

/-- A blank within a line. -/
def isBlank (c : Char) : Bool := c == ' ' || c == '\t'

/-- Whether a character may stand in a comment or, quotes and backslashes aside,
in a string. -/
def isPlain (c : Char) : Bool := c == '\t' || (32 ≤ c.toNat && c.toNat != 127)

/-- The text after a line end, if one is in front. -/
def lineEnd? : List Char → Option (List Char)
  | '\n' :: rest => some rest
  | '\r' :: '\n' :: rest => some rest
  | _ => none

def skipBlanks (text : List Char) : List Char := text.dropWhile isBlank

/-- A character of so many hexadecimal digits. -/
def unicode? (count : Nat) (text : List Char) : Option (Char × List Char) := do
  let digits := text.take count
  if digits.length < count then none
  else
    let n ← Text.readDigits? 16 digits
    if n.isValidChar then some (Char.ofNat n, text.drop count) else none

/-- Reads what follows a backslash. -/
def escape? : List Char → Option (Char × List Char)
  | 'b' :: rest => some ('\x08', rest)
  | 't' :: rest => some ('\t', rest)
  | 'n' :: rest => some ('\n', rest)
  | 'f' :: rest => some ('\x0c', rest)
  | 'r' :: rest => some ('\r', rest)
  | '"' :: rest => some ('"', rest)
  | '\\' :: rest => some ('\\', rest)
  | 'u' :: rest => unicode? 4 rest
  | 'U' :: rest => unicode? 8 rest
  | _ => none

def basic : Nat → List Char → Option (List Char × List Char)
  | 0, _ => none
  | fuel + 1, text =>
      match text with
      | [] => none
      | '"' :: rest => some ([], rest)
      | '\\' :: rest => do
          let (c, rest) ← escape? rest
          let (s, rest) ← basic fuel rest
          return (c :: s, rest)
      | c :: rest =>
          if isPlain c then (basic fuel rest).map fun (s, rest) => (c :: s, rest) else none

def literal : List Char → Option (List Char × List Char)
  | [] => none
  | '\'' :: rest => some ([], rest)
  | c :: rest =>
      if isPlain c then (literal rest).map fun (s, rest) => (c :: s, rest) else none

def skipLines : Nat → List Char → List Char
  | 0, text => text
  | fuel + 1, text =>
      let text := skipBlanks text
      match lineEnd? text with
      | some rest => skipLines fuel rest
      | none => text

/-- The text after a backslash that ends its line, and after the blanks that follow. -/
def continued? (text : List Char) : Option (List Char) :=
  (lineEnd? (skipBlanks text)).map fun rest => skipLines rest.length rest

/-- Quotes in front of the text, at most two of which belong to a string that the
other three end. -/
def closing? (quote : Char) (text : List Char) : Option (List Char × List Char) :=
  let quotes := (text.takeWhile (· = quote)).take 5
  if quotes.length < 3 then none
  else some (quotes.drop 3, text.drop quotes.length)

/-- Reads a string of several lines after its three quotes. Literal strings have
no escapes. -/
def multiline (quote : Char) (literal : Bool) : Nat → List Char → Option (List Char × List Char)
  | 0, _ => none
  | fuel + 1, text =>
      match closing? quote text with
      | some result => some result
      | none =>
          match text with
          | [] => none
          | c :: rest =>
              if c = '\\' ∧ ¬ literal then
                match continued? rest with
                | some rest => multiline quote literal fuel rest
                | none => do
                    let (c, rest) ← escape? rest
                    let (s, rest) ← multiline quote literal fuel rest
                    return (c :: s, rest)
              else
                match lineEnd? text with
                | some rest =>
                    (multiline quote literal fuel rest).map fun (s, rest) => ('\n' :: s, rest)
                | none =>
                    if isPlain c then
                      (multiline quote literal fuel rest).map fun (s, rest) => (c :: s, rest)
                    else none

/-- The text after one line end in front, if there is one. -/
def dropLineEnd (text : List Char) : List Char := (lineEnd? text).getD text

def string? (text : List Char) : Option (String × List Char) :=
  let body := match text with
    | '"' :: '"' :: '"' :: rest => multiline '"' false (rest.length + 1) (dropLineEnd rest)
    | '\'' :: '\'' :: '\'' :: rest => multiline '\'' true (rest.length + 1) (dropLineEnd rest)
    | '"' :: rest => basic (rest.length + 1) rest
    | '\'' :: rest => literal rest
    | _ => none
  body.map fun (s, rest) => (String.ofList s, rest)

/-- Reads digits with single underscores between them; the underscores are left out. -/
def digits? (isDigit : Char → Bool) (text : List Char) : Option (List Char × List Char) :=
  let run := text.takeWhile fun c => isDigit c || c == '_'
  if (run.splitOn '_').any List.isEmpty then none
  else some (run.filter (· ≠ '_'), text.drop run.length)

def sign : List Char → List Char × List Char
  | '+' :: rest => (['+'], rest)
  | '-' :: rest => (['-'], rest)
  | text => ([], text)

/-- Reads a decimal number without leading zeros. -/
def whole? (text : List Char) : Option (List Char × List Char) :=
  match text with
  | '0' :: rest => some (['0'], rest)
  | _ => digits? Char.isDigit text

/-- Whether an integer is a signed number of 64 bits. -/
def inRange (n : Int) : Bool := -9223372036854775808 ≤ n && n ≤ 9223372036854775807

/-- Reads an integer of another base after its mark. -/
def based? (base : Nat) (text : List Char) : Option (Toml × List Char) := do
  let (ds, rest) ← digits? (fun c => (Text.digitValue? base c).isSome) text
  let n ← Text.readDigits? base ds
  if inRange n then return (.integer n, rest) else none

def integer? (text : List Char) : Option (Toml × List Char) :=
  match text with
  | '0' :: 'x' :: rest => based? 16 rest
  | '0' :: 'o' :: rest => based? 8 rest
  | '0' :: 'b' :: rest => based? 2 rest
  | _ => do
      let (s, rest) := sign text
      let (ds, rest) ← whole? rest
      let n ← Text.readDigits? 10 ds
      let n : Int := if s = ['-'] then -n else n
      if inRange n then return (.integer n, rest) else none

def exponent? (text : List Char) : Option (List Char × List Char) :=
  match text with
  | e :: rest =>
      if e = 'e' ∨ e = 'E' then do
        let (s, rest) := sign rest
        let (ds, rest) ← digits? Char.isDigit rest
        return ('e' :: s ++ ds, rest)
      else none
  | [] => none

/-- Reads a number with a fraction or an exponent. It must not exceed all numbers. -/
def float? (text : List Char) : Option (Toml × List Char) := do
  let (s, rest) := sign text
  match rest with
  | 'i' :: 'n' :: 'f' :: rest => return (.float (String.ofList (s ++ ['i', 'n', 'f'])), rest)
  | 'n' :: 'a' :: 'n' :: rest => return (.float (String.ofList (s ++ ['n', 'a', 'n'])), rest)
  | _ =>
      let (ds, rest) ← whole? rest
      let (tail, rest) ← match rest with
        | '.' :: more => do
            let (fraction, rest) ← digits? Char.isDigit more
            match exponent? rest with
            | some (power, rest) => some ('.' :: fraction ++ power, rest)
            | none =>
                if rest.head?.any fun c => c = 'e' ∨ c = 'E' then none
                else some ('.' :: fraction, rest)
        | _ => exponent? rest
      if s ≠ ['-'] ∧ Json.tooLarge (ds ++ tail) then none
      else return (.float (String.ofList (s ++ ds ++ tail)), rest)

/-- Reads exactly `count` digits of a number between two others. -/
def fixed? (count low high : Nat) (text : List Char) : Option (Nat × List Char) := do
  let ds := text.take count
  if ds.length = count ∧ ds.all Char.isDigit then
    let n ← Text.readDigits? 10 ds
    if low ≤ n ∧ n ≤ high then return (n, text.drop count) else none
  else none

/-- The text after a character that has to be in front. -/
def expect? (c : Char) : List Char → Option (List Char)
  | x :: rest => if x = c then some rest else none
  | [] => none

/-- How many days a month has. -/
def daysOf (year month : Nat) : Nat :=
  match month with
  | 2 => if year % 4 = 0 ∧ (year % 100 ≠ 0 ∨ year % 400 = 0) then 29 else 28
  | 4 | 6 | 9 | 11 => 30
  | _ => 31

def date? (text : List Char) : Option (List Char) := do
  let (year, rest) ← fixed? 4 0 9999 text
  let (month, rest) ← fixed? 2 1 12 (← expect? '-' rest)
  let (_, rest) ← fixed? 2 1 (daysOf year month) (← expect? '-' rest)
  return rest

def time? (text : List Char) : Option (List Char) := do
  let (_, rest) ← fixed? 2 0 23 text
  let (_, rest) ← fixed? 2 0 59 (← expect? ':' rest)
  let (_, rest) ← fixed? 2 0 60 (← expect? ':' rest)
  match rest with
  | '.' :: more =>
      let (ds, rest) := more.span Char.isDigit
      if ds.isEmpty then none else return rest
  | _ => return rest

/-- Reads an offset from universal time, if there is one. -/
def offset? (text : List Char) : Option (List Char) :=
  match text with
  | 'Z' :: rest | 'z' :: rest => some rest
  | '+' :: rest | '-' :: rest => do
      let (_, rest) ← fixed? 2 0 23 rest
      let (_, rest) ← fixed? 2 0 59 (← expect? ':' rest)
      return rest
  | _ => some text

/-- Whether a text begins like a date or a time of day, so it has to be one. -/
def looksLikeMoment (text : List Char) : Bool :=
  let ds := text.takeWhile Char.isDigit
  (ds.length = 4 && (text.drop 4).head? = some '-')
    || (ds.length = 2 && (text.drop 2).head? = some ':')

/-- Reads a moment: a date, a time of day, or both and perhaps an offset. -/
def moment? (text : List Char) : Option (Toml × List Char) := do
  let rest ← match date? text with
    | some rest =>
        match rest with
        | c :: more =>
            if c = 'T' ∨ c = 't' then offset? (← time? more)
            else if c = ' ' ∧ more.head?.any Char.isDigit then offset? (← time? more)
            else some rest
        | [] => some rest
    | none => time? text
  return (.moment (String.ofList (text.take (text.length - rest.length))), rest)

def number? (text : List Char) : Option (Toml × List Char) :=
  if looksLikeMoment text then moment? text
  else
    match float? text with
    | some result => some result
    | none => integer? text

end Cadence.Toml
