import Cadence.Proofs.Broadcast.Courses
import Cadence.Proofs.Broadcast.Stability

/-! # Delays within the interval

The interval is settled by whoever needs it first, and every record draws a delay
that fits it. Since neither changes any more, all records of a dispatcher have
delays within one interval.
-/

namespace Cadence

/-- A delay fits an interval if it is shorter; an interval of zero leaves zero. -/
def Span.Fits (delay interval : Span) : Prop :=
  delay < interval ∨ (interval = .zero ∧ delay = .zero)

theorem Span.Fits.lt {delay interval : Span} (h : delay.Fits interval)
    (hpositive : Span.zero < interval) : delay < interval := by
  rcases h with hlt | ⟨rfl, -⟩
  · exact hlt
  · exact absurd hpositive (Nat.lt_irrefl _)

namespace DelaySource

/-- A generator draws from the range that it is asked for. A script can hold anything. -/
def Fair : DelaySource → Prop
  | scripted _ => True
  | generator stream _ => ∀ k n, 0 < n → stream.draw k n < n

theorem fair_seeded (seed : UInt64) (taken : Nat) : (generator (.seeded seed) taken).Fair :=
  DrawStream.seeded_draw_lt seed

theorem pulledBelow_fits (interval delay : Span) : (pulledBelow interval delay).Fits interval := by
  unfold pulledBelow
  split
  next hzero => exact .inr ⟨Span.ext (by simpa [Span.isZero] using hzero), rfl⟩
  next hpositive =>
    have hne : interval.nanos ≠ 0 := by simpa [Span.isZero] using hpositive
    left
    rw [Span.lt_iff, Span.nanos_ofNanos]
    omega

/-- What a source draws fits the interval, and it draws on as before. -/
theorem Fair.delayWithin {source : DelaySource} (h : source.Fair) (interval : Span) :
    (source.delayWithin interval).1.Fits interval ∧ (source.delayWithin interval).2.Fair := by
  unfold DelaySource.delayWithin
  split
  next => exact ⟨pulledBelow_fits _ _, h⟩
  next => exact ⟨pulledBelow_fits _ _, trivial⟩
  next stream taken =>
    dsimp only
    split
    next hempty =>
      refine ⟨.inr ⟨Span.ext ?_, rfl⟩, h⟩
      show interval.nanos = 0
      unfold Text.maxWord at hempty
      omega
    next hrange =>
      refine ⟨.inl ?_, h⟩
      have hdraw := h taken _ (Nat.pos_of_ne_zero hrange)
      rw [Span.lt_iff, Span.nanos_ofNanos]
      omega

end DelaySource

namespace Broadcast

variable {ε κ : Type}

namespace Dispatcher

variable {d d' : Dispatcher ε} {interval : Span}

/-- The interval is this one as soon as it is needed, and every delay fits it. -/
structure Paced (interval : Span) (d : Dispatcher ε) : Prop where
  resolved : d.resolveInterval.1 = interval
  fair : d.delays.Fair
  fits : ∀ p ∈ d.records, p.2.delay.Fits interval

/-- What delays are drawn from, and those that were drawn, stay as they are. -/
structure Alike (d d' : Dispatcher ε) : Prop where
  interval : d'.interval = d.interval
  intervals : d'.intervals = d.intervals
  delays : d'.delays = d.delays
  records : d'.records = d.records

theorem Alike.refl (d : Dispatcher ε) : d.Alike d := ⟨rfl, rfl, rfl, rfl⟩

theorem Alike.trans {e : Dispatcher ε} (h : d.Alike d') (h' : d'.Alike e) : d.Alike e :=
  ⟨h'.interval.trans h.interval, h'.intervals.trans h.intervals, h'.delays.trans h.delays,
    h'.records.trans h.records⟩

theorem alike_startFanOut (d : Dispatcher ε) (origin : Origin) (ticket : Option Ticket) :
    d.Alike (d.startFanOut origin ticket).2.1 := by
  unfold startFanOut
  cases ticket <;> dsimp only <;> split <;> exact ⟨rfl, rfl, rfl, rfl⟩

theorem alike_foldl_scheduleFanOut {σ : Type} [TimerService σ (Errand κ)] (d : Dispatcher ε)
    (timers : σ) (origins : List Origin) :
    d.Alike (origins.foldl scheduleFanOut (d, timers)).1 := by
  induction origins generalizing d timers with
  | nil => exact .refl d
  | cons o rest ih =>
      have hstep : d.Alike (scheduleFanOut (d, timers) o).1 := by
        unfold scheduleFanOut
        dsimp only
        split <;> exact ⟨rfl, rfl, rfl, rfl⟩
      exact hstep.trans (ih _ _)

/-- A broadcast asks for the interval and leaves the delays alone. -/
theorem alike_broadcast {σ : Type} [TimerService σ (Errand κ)]
    (visit : List Origin → List Origin) (d : Dispatcher ε) (timers : σ) (now : Option Span) :
    d.resolveInterval.2.1.Alike (d.broadcast visit timers now).2.1 := by
  cases now with
  | none => exact .refl _
  | some now =>
      by_cases hearly : d.resolveInterval.2.1.debounced d.resolveInterval.1 now
      · rw [d.broadcast_of_early visit timers hearly]
        exact ⟨rfl, rfl, rfl, rfl⟩
      · rw [d.broadcast_of_ready visit timers hearly]
        have haccepting : d.resolveInterval.2.1.Alike (d.resolveInterval.2.1.accepting now) :=
          ⟨rfl, rfl, rfl, rfl⟩
        exact haccepting.trans (alike_foldl_scheduleFanOut _ _ _)

/-- The interval depends on nothing but its source and whether that was asked. -/
theorem Paced.of_source (h : d.Paced interval) (hinterval : d'.interval = d.interval)
    (hintervals : d'.intervals = d.intervals) (hfair : d'.delays.Fair)
    (hfits : ∀ p ∈ d'.records, p.2.delay.Fits interval) : d'.Paced interval where
  resolved := by
    rw [← h.resolved]
    unfold Dispatcher.resolveInterval
    rw [hinterval, hintervals]
    split <;> rfl
  fair := hfair
  fits := hfits

theorem Paced.alike (h : d.Paced interval) (halike : d.Alike d') : d'.Paced interval :=
  h.of_source halike.interval halike.intervals (halike.delays ▸ h.fair) (halike.records ▸ h.fits)

/-- Once it was needed, the interval does not change. -/
theorem Paced.resolveInterval (h : d.Paced interval) : d.resolveInterval.2.1.Paced interval := by
  have hresolved := h.resolved
  unfold Dispatcher.resolveInterval at hresolved ⊢
  split at hresolved
  next => exact h
  next => exact ⟨hresolved, h.fair, h.fits⟩

/-- The record of a new origin draws a delay that fits. -/
theorem Paced.ensureRecord (h : d.Paced interval) (origin : Origin) :
    (d.ensureRecord origin).1.Paced interval := by
  unfold Dispatcher.ensureRecord
  split
  next => exact h
  next =>
    have hresolved := h.resolveInterval
    obtain ⟨hfits, hfair⟩ := hresolved.fair.delayWithin d.resolveInterval.1
    refine hresolved.of_source rfl rfl hfair fun p hp => ?_
    rcases List.mem_append.mp hp with hold | hnew
    · exact hresolved.fits p hold
    · rw [List.mem_singleton.mp hnew, ← h.resolved]
      exact hfits

theorem Paced.updateRecord (h : d.Paced interval) (origin : Origin) {f : Record ε → Record ε}
    (hf : ∀ record, (f record).delay = record.delay) :
    (d.updateRecord origin f).Paced interval := by
  refine h.of_source rfl rfl h.fair fun p hp => ?_
  obtain ⟨q, hq, rfl⟩ := List.mem_map.mp hp
  dsimp only
  split
  · exact (hf q.2).symm ▸ h.fits q hq
  · exact h.fits q hq

theorem Paced.add (h : d.Paced interval) (origin : Origin) (endpoint : ε) :
    (d.add origin endpoint).2.1.Paced interval :=
  have hnumbered : ({ d with nextEndpoint := d.nextEndpoint + 1 } : Dispatcher ε).Paced interval :=
    h.alike ⟨rfl, rfl, rfl, rfl⟩
  (hnumbered.ensureRecord origin).updateRecord origin
    (f := fun r => { r with listeners := r.listeners ++ [(d.nextEndpoint, endpoint)] })
    fun _ => rfl

theorem Paced.remove (h : d.Paced interval) (r : Registration) : (d.remove r).1.Paced interval := by
  unfold Dispatcher.remove
  split
  next => exact h
  next =>
    have hreleased := h.updateRecord r.origin
      (f := fun record => { record with listeners := record.listeners.eraseP (·.1 = r.id) })
      fun _ => rfl
    dsimp only
    split
    next =>
      exact hreleased.of_source rfl rfl hreleased.fair
        fun p hp => hreleased.fits p (List.mem_of_mem_eraseP hp)
    next => exact hreleased

theorem stable_paced (interval : Span) : Stable fun d : Dispatcher ε => d.Paced interval where
  resolveInterval h := h.resolveInterval
  add origin endpoint h := h.add origin endpoint
  remove r h := h.remove r
  startFanOut origin ticket h := h.alike (alike_startFanOut _ origin ticket)
  countNotification h := h.alike ⟨rfl, rfl, rfl, rfl⟩
  vacate h := h.of_source rfl rfl h.fair nofun

end Dispatcher

/-! ## Runs -/

/-- What is said of the interval and the delays alone, and is stable, holds along every run, for
broadcasts ask for the interval and leave the delays alone. -/
theorem Dispatcher.Stable.along_of_alike {σ δ : Type} [Timeline σ δ (Errand κ)]
    {P : Dispatcher ε → Prop} {s : Session σ δ ε} (h : Stable P)
    (halike : ∀ {d d' : Dispatcher ε}, P d → d.Alike d' → P d') (hs : P s.dispatcher)
    (run : List (Roll.Beat σ ε)) : P (Roll.after s run).dispatcher := by
  refine h.along (fun u visit hu => h.answer ?_ _ _) hs run
  exact halike (h.resolveInterval hu) (alike_broadcast visit _ _ _)

/-- Happenings on an agenda are beats, so the interval and the delays stay within bounds. -/
theorem Session.paced_course {s : OnAgenda ε κ} {interval : Span}
    (h : s.dispatcher.Paced interval) (run : List (Happening ε κ)) :
    (s.course run).dispatcher.Paced interval := by
  rw [← s.after_beats run]
  exact (Dispatcher.stable_paced interval).along_of_alike Dispatcher.Paced.alike h _

end Broadcast

end Cadence
