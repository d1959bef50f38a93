import Cadence.Span

/-!
# Random delays

A delay source draws delays below an interval; a zero interval yields zero. A
script hands out given delays in order, pulled just below the interval, and then
zeros. A generator draws whole nanoseconds from a range that is capped at the
64-bit words.
-/

namespace Cadence

/-- A stream of numbers: `draw k n` is the `k`-th, drawn below `n`. -/
structure DrawStream where
  draw : Nat → Nat → Nat

/-- Where random delays come from. -/
inductive DelaySource
  | scripted (script : List Span)
  | generator (stream : DrawStream) (taken : Nat)

namespace DelaySource

/-- The delay of a script entry within an interval. -/
def pulledBelow (interval delay : Span) : Span :=
  if interval.isZero then .zero
  else .ofNanos (min delay.nanos (interval.nanos - 1))

def delayWithin (source : DelaySource) (interval : Span) : Span × DelaySource :=
  match source with
  | scripted [] => (pulledBelow interval .zero, scripted [])
  | scripted (delay :: rest) => (pulledBelow interval delay, scripted rest)
  | generator stream taken =>
      let range := min interval.nanos Text.maxWord
      if range = 0 then (.zero, source)
      else (.ofNanos (stream.draw taken range), generator stream (taken + 1))

/-- How many delays a script still holds. -/
def remaining : DelaySource → Nat
  | scripted script => script.length
  | generator .. => 0

def drawAll (source : DelaySource) : List Span → List (Span × DelaySource)
  | [] => []
  | interval :: rest =>
      let (delay, source) := source.delayWithin interval
      (delay, source) :: drawAll source rest

end DelaySource

namespace DrawStream

def mix (z : UInt64) : UInt64 :=
  let z := (z ^^^ (z >>> 30)) * 0xbf58476d1ce4e5b9
  let z := (z ^^^ (z >>> 27)) * 0x94d049bb133111eb
  z ^^^ (z >>> 31)

/-- The stream of a seed: the `k`-th word is the scrambled seed plus `k + 1`
steps, scaled down to the range. It is one example of a fair stream, which is any
that draws below every bound above zero. A generator may be given another one with
other numbers: nothing but its being fair is relied on. -/
def seeded (seed : UInt64) : DrawStream where
  draw k n := (mix (seed + UInt64.ofNat (k + 1) * 0x9e3779b97f4a7c15)).toNat * n / Nat.pow 2 64

/-- A seeded stream draws within a nonempty range. -/
theorem seeded_draw_lt (seed : UInt64) (k n : Nat) (h : 0 < n) : (seeded seed).draw k n < n := by
  have hw := (mix (seed + UInt64.ofNat (k + 1) * 0x9e3779b97f4a7c15)).toNat_lt
  show _ * n / Nat.pow 2 64 < n
  rw [Nat.div_lt_iff_lt_mul (by decide), Nat.mul_comm n]
  exact Nat.mul_lt_mul_of_pos_right hw h

end DrawStream

end Cadence
