import Cadence.Text.Decimal

/-!
# Punycode

Writes a label with any characters in letters, digits and hyphens. The ASCII
characters stand first; after the last hyphen follow the others by ascending
code point, each as its distance from the one before, in numerals whose digits
have thresholds that adapt to the distances seen so far.
-/

namespace Cadence.Domain.Punycode

def digit (d : Nat) : Char :=
  if d < 26 then Char.ofNat (97 + d) else Char.ofNat (22 + d)

def digitValue? (c : Char) : Option Nat :=
  if 'a' ≤ c ∧ c ≤ 'z' then some (c.toNat - 97)
  else if 'A' ≤ c ∧ c ≤ 'Z' then some (c.toNat - 65)
  else if '0' ≤ c ∧ c ≤ '9' then some (c.toNat - 22)
  else none

/-- The threshold of a digit: a digit below it ends the numeral. -/
def threshold (place bias : Nat) : Nat :=
  if place ≤ bias then 1 else if bias + 26 ≤ place then 26 else place - bias

theorem threshold_pos (place bias : Nat) : 1 ≤ threshold place bias := by
  grind [threshold]

/-- Divides a distance down and counts the places it takes. -/
def settle (delta places : Nat) : Nat × Nat :=
  if 455 < delta then settle (delta / 35) (places + 36) else (delta, places)
termination_by delta
decreasing_by exact Nat.div_lt_self (by omega) (by omega)

/-- The bias after a distance; `count` characters are written by then. -/
def adapt (delta count : Nat) (first : Bool) : Nat :=
  let delta := if first then delta / 700 else delta / 2
  let (delta, places) := settle (delta + delta / count) 0
  places + 36 * delta / (delta + 38)

/-- The numeral of a distance. -/
def numeral (bias place q : Nat) : List Char :=
  let t := threshold place bias
  if q < t then [digit q]
  else digit (t + (q - t) % (36 - t)) :: numeral bias (place + 36) ((q - t) / (36 - t))
termination_by q
decreasing_by
  have h := threshold_pos place bias
  have := Nat.div_le_self (q - threshold place bias) (36 - threshold place bias)
  omega

/-- The state of writing: the numerals so far, the running distance, the bias and
how many characters are written. -/
structure Writing where
  out : List Char := []
  delta : Nat := 0
  bias : Nat := 72
  count : Nat

/-- Passes one character of the label while the code point `n` is written. -/
def Writing.pass (basic n : Nat) (w : Writing) (c : Char) : Writing :=
  if c.toNat < n then { w with delta := w.delta + 1 }
  else if c.toNat = n then
    { out := w.out ++ numeral w.bias 36 w.delta
      delta := 0
      bias := adapt w.delta (w.count + 1) (w.count = basic)
      count := w.count + 1 }
  else w

/-- Writes the code points of an ascending list, all of them at least `n`. -/
def writeAll (label : List Char) (basic : Nat) : List Nat → Nat → Writing → Writing
  | [], _, w => w
  | m :: rest, n, w =>
      let w := { w with delta := w.delta + (m - n) * (w.count + 1) }
      let w := label.foldl (Writing.pass basic m) w
      writeAll label basic rest (m + 1) { w with delta := w.delta + 1 }

/-- Puts a number into an ascending list unless it is there. -/
def insertNew (n : Nat) : List Nat → List Nat
  | [] => [n]
  | x :: rest =>
      if n < x then n :: x :: rest
      else if n = x then x :: rest
      else x :: insertNew n rest

/-- The written form of a label. -/
def encode (label : List Char) : List Char :=
  let basic := label.filter (·.toNat < 128)
  let others := (label.filter (128 ≤ ·.toNat)).foldr (fun c ns => insertNew c.toNat ns) []
  let w := writeAll label basic.length others 128 { count := basic.length }
  basic ++ (if basic.isEmpty then [] else ['-']) ++ w.out

/-- Reads a numeral onto `i`, with `weight` for its first digit. -/
def readNumeral (bias : Nat) : List Char → Nat → Nat → Nat → Option (Nat × List Char)
  | [], _, _, _ => none
  | c :: rest, place, weight, i =>
      match digitValue? c with
      | none => none
      | some d =>
          let t := threshold place bias
          if d < t then some (i + d * weight, rest)
          else readNumeral bias rest (place + 36) (weight * (36 - t)) (i + d * weight)

theorem length_lt_of_readNumeral {bias : Nat} {text rest : List Char} {place weight i j : Nat}
    (h : readNumeral bias text place weight i = some (j, rest)) : rest.length < text.length := by
  induction text generalizing place weight i with
  | nil => simp [readNumeral] at h
  | cons c text ih =>
      rw [readNumeral] at h
      split at h
      · simp at h
      · dsimp only at h
        split at h
        · simp only [Option.some.injEq, Prod.mk.injEq] at h
          simp [h.2]
        · exact Nat.lt_succ_of_lt (ih h)

/-- Reads the numerals and puts their characters in. -/
def readAll (bias n i : Nat) (out : List Char) (text : List Char) : Option (List Char) :=
  if text.isEmpty then some out
  else
    match _read : readNumeral bias text 36 1 i with
    | none => none
    | some (j, rest) =>
        let count := out.length + 1
        let n := n + j / count
        if n.isValidChar then
          readAll (adapt (j - i) count (i = 0)) n (j % count + 1)
            (out.insertIdx (j % count) (Char.ofNat n)) rest
        else none
termination_by text.length
decreasing_by exact length_lt_of_readNumeral _read

/-- The label of a written form. -/
def decode? (text : List Char) : Option (List Char) :=
  let tail := text.reverse.takeWhile (· ≠ '-') |>.reverse
  let basic := (text.reverse.dropWhile (· ≠ '-')).drop 1 |>.reverse
  if text.all (·.toNat < 128) then readAll 72 128 0 basic tail else none

end Cadence.Domain.Punycode
