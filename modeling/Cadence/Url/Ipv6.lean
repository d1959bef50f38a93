import Cadence.Url.Ipv4

/-!
# IPv6 addresses

Eight pieces of sixteen bits. Reading allows one run of zero pieces written as
a double colon and a decimal IPv4 address in the last two pieces. Writing
replaces the first longest run of at least two zero pieces.
-/

namespace Cadence.Url.Ipv6

/-- Reads up to four hexadecimal digits of a piece: its value and how many digits. -/
def piece : Nat → Nat → Nat → List Char → Nat × Nat × List Char
  | 0, value, count, rest => (value, count, rest)
  | _ + 1, value, count, [] => (value, count, [])
  | room + 1, value, count, c :: rest =>
      match Text.hexValue? c with
      | some d => piece room (value * 16 + d) (count + 1) rest
      | none => (value, count, c :: rest)

/-- Reads the digits of one decimal byte without leading zeros. -/
def byte : Option Nat → List Char → Option (Option Nat × List Char)
  | value, [] => some (value, [])
  | value, c :: rest =>
      if c.isDigit then
        let d := c.toNat - '0'.toNat
        match value with
        | none => byte (some d) rest
        | some 0 => none
        | some v => if 255 < v * 10 + d then none else byte (some (v * 10 + d)) rest
      else some (value, c :: rest)

/-- Reads four decimal bytes that end the text. -/
def bytes : Nat → List Char → Option (List Nat)
  | 0, rest => if rest.isEmpty then some [] else none
  | room + 1, text => do
      let (value, rest) ← byte none text
      let value ← value
      let rest ← match room, rest with
        | 0, rest => some rest
        | _ + 1, '.' :: rest => some rest
        | _ + 1, _ => none
      return value :: (← bytes room rest)

/-- The places taken so far; a double colon takes at least one. -/
def taken (before : Option (List Nat)) (read : List Nat) : Nat :=
  match before with
  | none => read.length
  | some front => front.length + 1 + read.length

/-- Reads the remaining pieces. `before` holds the pieces left of the double
colon, if it has been seen, and `pieces` those read since. -/
def pieces : Nat → Option (List Nat) → List Nat → List Char → Option (List Nat)
  | _, before, read, [] => finish before read
  | 0, _, _, _ => none
  | fuel + 1, before, read, ':' :: rest =>
      match before with
      | some _ => none
      | none => pieces fuel (some read) [] rest
  | fuel + 1, before, read, text =>
      let (value, count, rest) := piece 4 0 0 text
      match rest with
      | [] => if count = 0 then none else pieces fuel before (read ++ [value]) []
      | '.' :: _ =>
          if count = 0 then none
          else if 6 < taken before read then none
          else match bytes 4 text with
            | some [a, b, c, d] =>
                finish before (read ++ [a * 256 + b, c * 256 + d])
            | _ => none
      | ':' :: rest =>
          if rest.isEmpty then none else pieces fuel before (read ++ [value]) rest
      | _ => none
where
  /-- The eight pieces, the run of zeros put in. -/
  finish (before : Option (List Nat)) (read : List Nat) : Option (List Nat) :=
    match before with
    | none => if read.length = 8 then some read else none
    | some front =>
        if front.length + read.length < 8 then
          some (front ++ List.replicate (8 - front.length - read.length) 0 ++ read)
        else none

def read? (text : List Char) : Option (List Nat) :=
  match text with
  | ':' :: ':' :: rest => pieces 9 (some []) [] rest
  | ':' :: _ => none
  | _ => pieces 9 none [] text

/-- The length of the run of zeros at the front. -/
def zeroRun (address : List Nat) : Nat := (address.takeWhile (· == 0)).length

/-- Start and length of the first longest run of zeros. -/
def longestRun : Nat → List Nat → Nat × Nat
  | _, [] => (0, 0)
  | start, p :: rest =>
      let here := zeroRun (p :: rest)
      let later := longestRun (start + 1) rest
      if later.2 ≤ here then (start, here) else later

/-- One piece in hexadecimal without leading zeros. -/
def pieceText (p : Nat) : String := String.ofList (Nat.toDigits 16 p)

def joined (address : List Nat) : String := ":".intercalate (address.map pieceText)

/-- The written form, the first longest run of at least two zeros left out. -/
def text (address : List Nat) : String :=
  let (start, count) := longestRun 0 address
  if count < 2 then joined address
  else joined (address.take start) ++ "::" ++ joined (address.drop (start + count))

/-- The form that shows an embedded IPv4 address in decimal bytes. -/
def mixedText (address : List Nat) : String :=
  match address with
  | [0, 0, 0, 0, 0, 65535, high, low] => "::ffff:" ++ Ipv4.text (high * 65536 + low)
  | _ => text address

end Cadence.Url.Ipv6
