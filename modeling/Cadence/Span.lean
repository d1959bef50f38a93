import Cadence.Text.Decimal

/-!
# Spans of time

A span is a whole number of nanoseconds up to a largest span. Sums stop at the
largest span and differences stop at zero, so spans are closed under both. A
span is written in the largest unit that leaves a nonzero whole part.
-/

namespace Cadence

/-- The nanoseconds of the largest span: all 64-bit seconds and a last fraction. -/
def Span.maxNanos : Nat := 18446744073709551615999999999

/-- A length of time in whole nanoseconds. -/
structure Span where
  nanos : Nat
  nanos_le : nanos ≤ Span.maxNanos
deriving DecidableEq

namespace Span

@[ext] theorem ext {a b : Span} (h : a.nanos = b.nanos) : a = b := by
  cases a; cases b; simp_all

/-- The span of `n` nanoseconds, or the largest span if that is too long. -/
def ofNanos (n : Nat) : Span :=
  ⟨min n maxNanos, Nat.min_le_right ..⟩

/-- The span of exactly `n` nanoseconds. -/
def ofNanos? (n : Nat) : Option Span :=
  if h : n ≤ maxNanos then some ⟨n, h⟩ else none

/-- The span of `n` seconds, or the largest span if that is too long. -/
def ofSecs (n : Nat) : Span := ofNanos (n * 1000000000)

def zero : Span := ofNanos 0

def longest : Span := ofNanos maxNanos

instance : Inhabited Span := ⟨zero⟩

instance : LE Span := ⟨fun a b => a.nanos ≤ b.nanos⟩

instance : LT Span := ⟨fun a b => a.nanos < b.nanos⟩

instance (a b : Span) : Decidable (a ≤ b) := inferInstanceAs (Decidable (a.nanos ≤ b.nanos))

instance (a b : Span) : Decidable (a < b) := inferInstanceAs (Decidable (a.nanos < b.nanos))

def max (a b : Span) : Span := if a ≤ b then b else a

/-- The sum, stopping at the largest span. -/
def add (a b : Span) : Span := ofNanos (a.nanos + b.nanos)

/-- The difference, stopping at zero. -/
def sub (a b : Span) : Span := ofNanos (a.nanos - b.nanos)

instance : Add Span := ⟨add⟩

instance : Sub Span := ⟨sub⟩

def isZero (d : Span) : Bool := d.nanos == 0

def secs (d : Span) : Nat := d.nanos / 1000000000

@[simp] theorem nanos_ofNanos (n : Nat) : (ofNanos n).nanos = min n maxNanos := rfl

@[simp] theorem nanos_zero : zero.nanos = 0 := rfl

@[simp] theorem nanos_longest : longest.nanos = maxNanos := rfl

theorem nanos_add (a b : Span) : (a + b).nanos = min (a.nanos + b.nanos) maxNanos := rfl

theorem nanos_sub (a b : Span) : (a - b).nanos = a.nanos - b.nanos := by
  have h := a.nanos_le
  show min (a.nanos - b.nanos) maxNanos = _
  omega

theorem le_iff {a b : Span} : a ≤ b ↔ a.nanos ≤ b.nanos := Iff.rfl

theorem lt_iff {a b : Span} : a < b ↔ a.nanos < b.nanos := Iff.rfl

/-- The fraction `value / 10 ^ digits` after the point, without trailing zeros. -/
def fraction (digits value : Nat) : String :=
  let kept := ((Text.decimalPadded digits value).reverse.dropWhile (· == '0')).reverse
  if kept.isEmpty then "" else "." ++ String.ofList kept

/-- The written form: seconds, milliseconds, microseconds or nanoseconds with a
decimal fraction. -/
def text (d : Span) : String :=
  let n := d.nanos
  if 1000000000 ≤ n then
    Text.decimal (n / 1000000000) ++ fraction 9 (n % 1000000000) ++ "s"
  else if 1000000 ≤ n then
    Text.decimal (n / 1000000) ++ fraction 6 (n % 1000000) ++ "ms"
  else if 1000 ≤ n then
    Text.decimal (n / 1000) ++ fraction 3 (n % 1000) ++ "µs"
  else Text.decimal n ++ "ns"

end Span

end Cadence
