import Cadence.Text.Decimal

/-!
# IPv4 addresses

A host whose last label is a number must be an address in full: one to four
parts, each decimal, octal or hexadecimal, the last part filling the bytes that
the others leave. Addresses are written as four decimal bytes.
-/

namespace Cadence.Url.Ipv4

/-- One part of an address; an empty hexadecimal part counts as zero. -/
def readPart? : List Char → Option Nat
  | [] => none
  | '0' :: 'x' :: digits | '0' :: 'X' :: digits =>
      if digits.isEmpty then some 0 else Text.readDigits? 16 digits
  | '0' :: digits => if digits.isEmpty then some 0 else Text.readDigits? 8 digits
  | digits => Text.readDigits? 10 digits

/-- The labels of a host, without one empty label at the end. -/
def labels (host : List Char) : List (List Char) :=
  let parts := host.splitOn '.'
  match parts.reverse with
  | [] :: (first :: rest) => (first :: rest).reverse
  | _ => parts

/-- Whether the last label makes the host an address, well formed or not. -/
def endsInNumber (host : List Char) : Bool :=
  match (labels host).getLast? with
  | none => false
  | some last =>
      (!last.isEmpty && last.all Char.isDigit) || (readPart? last).isSome

/-- The address of its parts, most significant first. -/
def combine : List Nat → Option Nat
  | [] => none
  | parts =>
      let last := parts.getLastD 0
      let front := parts.dropLast
      if front.any (255 < ·) then none
      else if Nat.pow 256 (4 - front.length) ≤ last then none
      else some (front.foldl (fun (acc, weight) part => (acc + part * weight, weight / 256))
        (last, 16777216)).1

def read? (host : List Char) : Option Nat :=
  let parts := labels host
  if 4 < parts.length then none
  else (parts.mapM readPart?).bind combine

/-- Four decimal bytes, divided by points. -/
def text (address : Nat) : String :=
  let byte (k : Nat) := Text.decimal (address / Nat.pow 256 k % 256)
  byte 3 ++ "." ++ byte 2 ++ "." ++ byte 1 ++ "." ++ byte 0

end Cadence.Url.Ipv4
