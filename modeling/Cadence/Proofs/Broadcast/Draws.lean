import Cadence.Proofs.Broadcast.Debounce
import Cadence.Proofs.Broadcast.Delays

/-! # Draws for one interval

Whoever needs the interval first has it asked for, and from then on it is the interval of every
draw and of every broadcast. A draw is told here once more with arithmetic that can fail, on
words and on differences above zero, and with a generator that has nothing to draw from an empty
range. From a fair source no draw of a run fails, and what is drawn fits the interval.
-/

namespace Cadence

/-- The difference, unless it falls below zero. -/
def Span.sub? (a b : Span) : Option Span := if b ≤ a then some (a - b) else none

theorem Span.ofNanos?_of_le {n : Nat} (h : n ≤ maxNanos) : ofNanos? n = some (.ofNanos n) := by
  unfold ofNanos?
  rw [dif_pos h]
  exact congrArg some (Span.ext (Nat.min_eq_left h).symm)

/-- The `k`-th number of a stream, if there is any below `n`. -/
def DrawStream.draw? (stream : DrawStream) (k n : Nat) : Option Nat :=
  if n = 0 then none else some (stream.draw k n)

namespace DelaySource

/-! ## Draws that can fail -/

/-- The largest word of 128 bits. -/
def maxWide : Nat := 340282366920938463463374607431768211455

/-- A number as a word, unless it is above the largest one. -/
def word? (largest n : Nat) : Option Nat := if n ≤ largest then some n else none

/-- The range that a generator is asked for: the nanoseconds are counted in words of 128 bits,
and where they are too many for 64 bits the range is the largest word. -/
def range? (interval : Span) : Option Nat := do
  let whole ← word? maxWide interval.nanos
  return (word? Text.maxWord whole).getD Text.maxWord

/-- A delay within the interval and the source after it, unless a step fails. -/
def draw? (source : DelaySource) (interval : Span) : Option (Span × DelaySource) :=
  match source with
  | scripted script =>
      if interval.isZero then some (.zero, scripted script.tail)
      else do
        let last ← interval.sub? (.ofNanos 1)
        let next := script.headD .zero
        return (if next ≤ last then next else last, scripted script.tail)
  | generator stream taken => do
      let range ← range? interval
      if range = 0 then return (.zero, source)
      let drawn ← stream.draw? taken range
      let nanos ← word? Text.maxWord drawn
      let delay ← Span.ofNanos? nanos
      return (delay, generator stream (taken + 1))

theorem word?_of_le {largest n : Nat} (h : n ≤ largest) : word? largest n = some n := if_pos h

theorem range?_eq (interval : Span) : range? interval = some (min interval.nanos Text.maxWord) := by
  have hle := interval.nanos_le
  unfold Span.maxNanos at hle
  have hwide : interval.nanos ≤ maxWide := by
    unfold maxWide
    omega
  unfold range?
  rw [word?_of_le hwide]
  refine congrArg some ?_
  unfold word?
  split
  next hword =>
    rw [Option.getD_some]
    omega
  next hlong =>
    rw [Option.getD_none]
    omega

/-- A script is pulled below an interval by the difference of one nanosecond. -/
theorem draw?_scripted (script : List Span) (interval : Span) :
    (scripted script).draw? interval =
      some (pulledBelow interval (script.headD .zero), scripted script.tail) := by
  unfold draw? pulledBelow
  dsimp only
  split
  next => rfl
  next hpositive =>
    have hne : interval.nanos ≠ 0 := by simpa [Span.isZero] using hpositive
    have hsub : interval.sub? (.ofNanos 1) = some (interval - .ofNanos 1) := by
      refine if_pos ?_
      rw [Span.le_iff, Span.nanos_ofNanos]
      omega
    rw [hsub]
    refine congrArg (fun delay => some (delay, scripted script.tail)) (Span.ext ?_)
    have hnext := (script.headD .zero).nanos_le
    rw [Span.nanos_ofNanos]
    split
    next hle =>
      rw [Span.le_iff, Span.nanos_sub, Span.nanos_ofNanos] at hle
      omega
    next hlater =>
      rw [Span.le_iff, Span.nanos_sub, Span.nanos_ofNanos] at hlater
      rw [Span.nanos_sub, Span.nanos_ofNanos]
      omega

/-- No draw from a fair source fails, whatever the interval. -/
theorem Fair.draw?_eq {source : DelaySource} (h : source.Fair) (interval : Span) :
    source.draw? interval = some (source.delayWithin interval) := by
  cases source with
  | scripted script =>
      rw [draw?_scripted]
      cases script <;> rfl
  | generator stream taken =>
      unfold DelaySource.draw? DelaySource.delayWithin
      dsimp only
      rw [range?_eq, Option.bind_eq_bind, Option.bind_some]
      split
      next hempty => rfl
      next hrange =>
        have hdraw := h taken _ (Nat.pos_of_ne_zero hrange)
        have hstream : stream.draw? taken (min interval.nanos Text.maxWord) =
          some (stream.draw taken (min interval.nanos Text.maxWord)) := if_neg hrange
        generalize stream.draw taken (min interval.nanos Text.maxWord) = n at hdraw hstream
        have hword : word? Text.maxWord n = some n := word?_of_le (by omega)
        have hspan : Span.ofNanos? n = some (.ofNanos n) := by
          unfold Text.maxWord at hdraw
          exact Span.ofNanos?_of_le (by unfold Span.maxNanos; omega)
        simp only [hstream, hword, hspan, Option.bind_eq_bind, Option.bind_some]
        rfl

/-- Draws for one interval, one after the other, and the source that they leave. None fails. -/
inductive Draws (interval : Span) (source : DelaySource) : List Span → DelaySource → Prop
  | none : Draws interval source [] source
  | next {delays : List Span} {before after : DelaySource} {delay : Span}
      (drawn : Draws interval source delays before)
      (draw : before.draw? interval = some (delay, after)) :
      Draws interval source (delays ++ [delay]) after

end DelaySource

namespace Broadcast

open DelaySource (Draws)

/-! ## What a dispatcher has drawn -/

namespace Dispatcher

variable {ε κ : Type} {d d' : Dispatcher ε} {interval : Span} {source : DelaySource}

/-- The delays of the records are among those that were drawn from `source`, all for this
interval. -/
structure Drawn (interval : Span) (source : DelaySource) (d : Dispatcher ε) : Prop where
  paced : d.Paced interval
  drawn : ∃ delays, Draws interval source delays d.delays ∧
    ∀ p ∈ d.records, p.2.delay ∈ delays

/-- Where nothing is drawn and no delay is new, all delays were drawn before. -/
theorem Drawn.of_delays (h : d.Drawn interval source) (hpaced : d'.Paced interval)
    (hdelays : d'.delays = d.delays)
    (hrecords : ∀ p ∈ d'.records, ∃ q ∈ d.records, p.2.delay = q.2.delay) :
    d'.Drawn interval source where
  paced := hpaced
  drawn := by
    obtain ⟨delays, hdraws, hmem⟩ := h.drawn
    refine ⟨delays, hdelays ▸ hdraws, fun p hp => ?_⟩
    obtain ⟨q, hq, heq⟩ := hrecords p hp
    exact heq ▸ hmem q hq

theorem Drawn.alike (h : d.Drawn interval source) (halike : d.Alike d') :
    d'.Drawn interval source :=
  h.of_delays (h.paced.alike halike) halike.delays fun p hp => ⟨p, halike.records ▸ hp, rfl⟩

theorem Drawn.resolveInterval (h : d.Drawn interval source) :
    d.resolveInterval.2.1.Drawn interval source := by
  have hrecords := d.resolveInterval_kept.records
  refine h.of_delays h.paced.resolveInterval ?_ fun p hp => ⟨p, hrecords ▸ hp, rfl⟩
  unfold Dispatcher.resolveInterval
  split <;> rfl

/-- The record of a new origin takes the next draw for the interval. -/
theorem Drawn.ensureRecord (h : d.Drawn interval source) (origin : Origin) :
    (d.ensureRecord origin).1.Drawn interval source := by
  refine ⟨h.paced.ensureRecord origin, ?_⟩
  unfold Dispatcher.ensureRecord
  split
  next => exact h.drawn
  next =>
    have hresolved := h.resolveInterval
    obtain ⟨delays, hdraws, hmem⟩ := hresolved.drawn
    have hdraw := hresolved.paced.fair.draw?_eq interval
    dsimp only
    rw [h.paced.resolved]
    refine ⟨_, .next hdraws hdraw, fun p hp => ?_⟩
    rcases List.mem_append.mp hp with hold | hnew
    · exact List.mem_append_left _ (hmem p hold)
    · rw [List.mem_singleton.mp hnew]
      exact List.mem_append_right _ List.mem_cons_self

theorem Drawn.updateRecord (h : d.Drawn interval source) (origin : Origin)
    {f : Record ε → Record ε} (hf : ∀ record, (f record).delay = record.delay) :
    (d.updateRecord origin f).Drawn interval source := by
  refine h.of_delays (h.paced.updateRecord origin hf) rfl fun p hp => ?_
  obtain ⟨q, hq, rfl⟩ := List.mem_map.mp hp
  refine ⟨q, hq, ?_⟩
  dsimp only
  split
  · exact hf q.2
  · rfl

theorem Drawn.add (h : d.Drawn interval source) (origin : Origin) (endpoint : ε) :
    (d.add origin endpoint).2.1.Drawn interval source :=
  have hnumbered :
      ({ d with nextEndpoint := d.nextEndpoint + 1 } : Dispatcher ε).Drawn interval source :=
    h.alike ⟨rfl, rfl, rfl, rfl⟩
  (hnumbered.ensureRecord origin).updateRecord origin
    (f := fun r => { r with listeners := r.listeners ++ [(d.nextEndpoint, endpoint)] })
    fun _ => rfl

theorem Drawn.remove (h : d.Drawn interval source) (r : Registration) :
    (d.remove r).1.Drawn interval source := by
  unfold Dispatcher.remove
  split
  next => exact h
  next =>
    have hreleased := h.updateRecord r.origin
      (f := fun record => { record with listeners := record.listeners.eraseP (·.1 = r.id) })
      fun _ => rfl
    dsimp only
    split
    next =>
      have hpaced := hreleased.paced
      refine hreleased.of_delays (hpaced.of_source rfl rfl hpaced.fair ?_) rfl
        fun p hp => ⟨p, List.mem_of_mem_eraseP hp, rfl⟩
      exact fun p hp => hpaced.fits p (List.mem_of_mem_eraseP hp)
    next => exact hreleased

theorem stable_drawn (interval : Span) (source : DelaySource) :
    Stable fun d : Dispatcher ε => d.Drawn interval source where
  resolveInterval h := h.resolveInterval
  add origin endpoint h := h.add origin endpoint
  remove r h := h.remove r
  startFanOut origin ticket h := h.alike (alike_startFanOut _ origin ticket)
  countNotification h := h.alike ⟨rfl, rfl, rfl, rfl⟩
  vacate h := h.of_delays (h.paced.of_source rfl rfl h.paced.fair nofun) rfl nofun

end Dispatcher

/-! ## Runs -/

open Roll (Beat next after)
open Debounce (Remembers calls greedy)

section Runs

variable {σ δ ε κ : Type} [Timeline σ δ (Errand κ)] {s : Session σ δ ε} {interval : Span}
  {source : DelaySource}

theorem Dispatcher.Drawn.along (h : s.dispatcher.Drawn interval source)
    (run : List (Beat σ ε)) : (after s run).dispatcher.Drawn interval source :=
  (stable_drawn interval source).along_of_alike Drawn.alike h run

/-- The owner is told the interval that all delays fit. -/
theorem perform_resolve (h : s.dispatcher.Paced interval) (howned : s.standing = .owned)
    (visit : List Origin → List Origin) :
    (s.perform visit .resolve : Outcome σ δ ε κ).signal = .answered (.interval interval) := by
  unfold Session.perform
  rw [if_neg fun hgone => hgone.2 howned]
  dsimp only
  unfold Session.resolve Session.answer
  dsimp only
  rw [if_neg (by simp [howned]), h.resolved]

/-- Over any run of a dispatcher on any timeline, and whatever its source of intervals would
answer another time, there is one interval, whoever needed it first. It is what the owner is
told, the source has been asked for it once at most, it debounces every broadcast, and the delay
of every record is below it, or zero if the interval is zero. The delays of the records are
among those that were drawn, all for this interval and none by a draw that fails. Nor would the
next draw fail, for whatever interval. -/
theorem delays_fit_one_interval (timers : σ) (frames : List (Frame δ))
    (intervals : IntervalSource) (delays : DelaySource) (hdelays : delays.Fair)
    (run : List (Beat σ ε)) (visit : List Origin → List Origin) :
    let start : Session σ δ ε := { timers, frames, dispatcher := { intervals, delays } }
    let interval := intervals.answer intervals.asked
    let past := calls start run
    let s := after start run
    let out : Outcome σ δ ε κ := s.perform visit .resolve
    (s.standing = .owned → out.signal = .answered (.interval interval)) ∧
    s.dispatcher.intervals.asked ≤ intervals.asked + 1 ∧
    past.map Prod.snd = greedy interval none (past.map Prod.fst) ∧
    (∀ p ∈ s.dispatcher.records,
      p.2.delay < interval ∨ (interval = .zero ∧ p.2.delay = .zero)) ∧
    (∃ drawn, Draws interval delays drawn s.dispatcher.delays ∧
      ∀ p ∈ s.dispatcher.records, p.2.delay ∈ drawn) ∧
    ∀ within, s.dispatcher.delays.draw? within =
      some (s.dispatcher.delays.delayWithin within) := by
  intro start interval past s out
  have hstart : Remembers intervals none start.dispatcher := ⟨rfl, .inl ⟨rfl, rfl, rfl⟩⟩
  obtain ⟨hremembers, -⟩ := Debounce.remembers_after hstart run
  have hfresh : start.dispatcher.Drawn interval delays :=
    ⟨⟨rfl, hdelays, nofun⟩, [], .none, nofun⟩
  have h : s.dispatcher.Drawn interval delays := hfresh.along run
  exact ⟨fun howned => perform_resolve h.paced howned visit, hremembers.asked_le,
    Debounce.verdicts_eq_greedy hstart run, h.paced.fits, h.drawn, h.paced.fair.draw?_eq⟩

end Runs

/-- A source that says the longest span first and no span at all from then on, and delays from
a generator. -/
def fickle : Session (Agenda (Errand Unit)) Agenda.Drive Unit where
  timers := {}
  dispatcher :=
    { intervals := ⟨fun k => if k = 0 then .longest else .zero, 0⟩
      delays := .generator (.seeded 7) 0 }

/-- A broadcast needs the interval before the first record does. -/
def broadcastFirst : List (Beat (Agenda (Errand Unit)) Unit) :=
  [.move id .broadcast, .move id (.add default ()), .move id .resume]

/-- Where the nanoseconds of the interval are more than a word holds, the delay still fits. -/
theorem delays_fit_one_interval_longest :
    (DelaySource.generator (.seeded 7) 0).Fair ∧ (after fickle broadcastFirst).standing = .owned ∧
      (after fickle broadcastFirst).dispatcher.records.map Prod.fst = [default] ∧
      (((after fickle broadcastFirst).perform id .resolve).signal =
        .answered (.interval .longest)) ∧
      (after fickle broadcastFirst).dispatcher.intervals.asked ≤ 1 ∧
      ∀ p ∈ (after fickle broadcastFirst).dispatcher.records, p.2.delay < .longest := by
  have hfair : (DelaySource.generator (.seeded 7) 0).Fair := DelaySource.fair_seeded 7 0
  obtain ⟨htold, hasked, -, hfits, -, -⟩ := delays_fit_one_interval fickle.timers fickle.frames
    ⟨fun k => if k = 0 then .longest else .zero, 0⟩ (.generator (.seeded 7) 0) hfair
    broadcastFirst id
  refine ⟨hfair, rfl, rfl, htold rfl, hasked, fun p hp => ?_⟩
  exact (hfits p hp).resolve_right fun hzero => absurd hzero.1 (by decide)

end Broadcast

end Cadence
