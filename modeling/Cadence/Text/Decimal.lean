/-!
# Numerals

Natural numbers in decimal and hexadecimal, and the reading of digit strings.
A digit string is read from the left, so its value is a fold over its digits.
-/

namespace Cadence.Text

/-- The decimal numeral of `n`, without leading zeros. -/
def decimal (n : Nat) : String :=
  String.ofList (Nat.toDigits 10 n)

/-- The value of a hexadecimal digit in either case. -/
def hexValue? (c : Char) : Option Nat :=
  if '0' ≤ c ∧ c ≤ '9' then some (c.toNat - '0'.toNat)
  else if 'a' ≤ c ∧ c ≤ 'f' then some (c.toNat - 'a'.toNat + 10)
  else if 'A' ≤ c ∧ c ≤ 'F' then some (c.toNat - 'A'.toNat + 10)
  else none

/-- The value of a digit in the given base, at most sixteen. -/
def digitValue? (base : Nat) (c : Char) : Option Nat :=
  (hexValue? c).filter (· < base)

/-- Folds the digits of a numeral onto the value read so far. -/
def foldDigits (base : Nat) : Nat → List Char → Option Nat
  | value, [] => some value
  | value, c :: rest =>
      match digitValue? base c with
      | some d => foldDigits base (value * base + d) rest
      | none => none

/-- The value of a nonempty string of digits in the given base. -/
def readDigits? (base : Nat) : List Char → Option Nat
  | [] => none
  | digits => foldDigits base 0 digits

/-- The largest unsigned number of 64 bits. -/
def maxWord : Nat := 18446744073709551615

/-- An unsigned 64-bit numeral: an optional plus sign and at least one decimal digit. -/
def readWord? (text : List Char) : Option Nat :=
  let digits := match text with
    | '+' :: rest => rest
    | _ => text
  (readDigits? 10 digits).filter (· ≤ maxWord)

/-- One lower case hexadecimal digit. -/
def hexDigit (n : Nat) : Char :=
  Nat.digitChar (n % 16)

/-- Exactly `width` lower case hexadecimal digits of `n`, the low ones. -/
def hexPadded : Nat → Nat → List Char
  | 0, _ => []
  | width + 1, n => hexPadded width (n / 16) ++ [hexDigit n]

/-- Exactly `width` decimal digits of `n`, the low ones. -/
def decimalPadded : Nat → Nat → List Char
  | 0, _ => []
  | width + 1, n => decimalPadded width (n / 10) ++ [Nat.digitChar (n % 10)]

end Cadence.Text
