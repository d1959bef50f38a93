import Cadence.Proofs.Broadcast.Booking
import Cadence.Proofs.Broadcast.Roll
import Cadence.Proofs.Broadcast.Stability

/-! # Debouncing

A broadcast is held against the clock reading of the last one that was accepted, at an
interval that is asked for once. No other operation touches either, except that it may ask for
the interval first. So over a run on any timeline, wherever its clock goes, the verdicts are a
greedy filter of the readings, and nothing else decides them.
-/

namespace Cadence.Broadcast.Debounce

open Roll (Beat next after)

/-! ## The filter -/

section Filter

variable {interval : Span} {last : Option Span}

/-- Whether the interval is over at `now`, if a broadcast was accepted last at `last`. -/
def Clear (interval : Span) (last : Option Span) (now : Span) : Prop :=
  ∀ before ∈ last, interval ≤ now - before

instance (interval : Span) (last : Option Span) (now : Span) :
    Decidable (Clear interval last now) :=
  inferInstanceAs (Decidable (∀ before ∈ last, interval ≤ now - before))

/-- The verdict on what the clock reads, if it can be read. -/
def judge (interval : Span) (last : Option Span) : Option Span → Verdict
  | none => .unreadableClock
  | some now => if Clear interval last now then .accepted else .suppressed

/-- The reading that the next broadcast is held against. -/
def carried (interval : Span) (last reading : Option Span) : Option Span :=
  if judge interval last reading = .accepted then reading else last

/-- The verdicts on some readings, each of which is held against the last one accepted. -/
def greedy (interval : Span) : Option Span → List (Option Span) → List Verdict
  | _, [] => []
  | last, reading :: rest =>
      judge interval last reading :: greedy interval (carried interval last reading) rest

/-- The readings at which broadcasts were accepted. -/
def accepted (calls : List (Option Span × Verdict)) : List Span :=
  calls.filterMap fun
    | (reading, .accepted) => reading
    | _ => none

theorem judge_eq_unreadableClock {reading : Option Span} :
    judge interval last reading = .unreadableClock ↔ reading = none := by
  cases reading with
  | none => simp [judge]
  | some now =>
      unfold judge
      dsimp only
      split <;> simp

theorem judge_eq_accepted {now : Span} :
    judge interval last (some now) = .accepted ↔ Clear interval last now := by
  unfold judge
  dsimp only
  split <;> simp [*]

theorem accepted_concat (calls : List (Option Span × Verdict)) (reading : Option Span) :
    accepted (calls ++ [(reading, judge interval last reading)]) = accepted calls ++
      if judge interval last reading = .accepted then reading.toList else [] := by
  unfold accepted
  rw [List.filterMap_append]
  congr 1
  cases reading with
  | none => rfl
  | some now => cases judge interval last (some now) <;> rfl

/-- The reading that counts is the last one accepted. -/
theorem getLast?_accepted_concat (calls : List (Option Span × Verdict)) (reading : Option Span) :
    let last := (accepted calls).getLast?
    (accepted (calls ++ [(reading, judge interval last reading)])).getLast? =
      carried interval last reading := by
  intro last
  rw [accepted_concat]
  unfold carried
  split
  next haccepted =>
    cases reading with
    | none => cases haccepted
    | some now => exact List.getLast?_concat
  next => rw [List.append_nil]

/-- What is far enough from the last reading is as far from those that the last one was far
enough from. -/
theorem spaced_concat {times : List Span} {now : Span}
    (hspaced : times.Pairwise fun a b => interval ≤ b - a)
    (hclear : Clear interval times.getLast? now) :
    (times ++ [now]).Pairwise fun a b => interval ≤ b - a := by
  refine List.pairwise_append.mpr ⟨hspaced, List.pairwise_singleton _ _, ?_⟩
  intro a ha b hb
  cases List.mem_singleton.mp hb
  cases times using List.reverseRecOn with
  | nil => cases ha
  | append_singleton front before =>
      have hnow : interval ≤ now - before := hclear before (by simp)
      rcases List.mem_append.mp ha with hfront | hlast
      · have hbefore : interval ≤ before - a :=
          (List.pairwise_append.mp hspaced).2.2 a hfront before List.mem_cons_self
        rw [Span.le_iff, Span.nanos_sub] at hnow hbefore ⊢
        omega
      · cases List.mem_singleton.mp hlast
        exact hnow

end Filter

/-! ## What a dispatcher remembers -/

section Memory

variable {ε κ : Type} {source : IntervalSource} {last : Option Span} {d d' : Dispatcher ε}

/-- The last broadcast was accepted at `last`. The source has been asked for the interval once,
or not at all and then nothing was accepted yet. -/
structure Remembers (source : IntervalSource) (last : Option Span) (d : Dispatcher ε) : Prop where
  lastDispatch : d.lastDispatch = last
  interval : (d.interval = none ∧ d.intervals = source ∧ last = none) ∨
    (d.interval = some (source.answer source.asked) ∧
      d.intervals = { source with asked := source.asked + 1 })

theorem Remembers.congr (h : Remembers source last d) (hlast : d'.lastDispatch = d.lastDispatch)
    (hinterval : d'.interval = d.interval) (hintervals : d'.intervals = d.intervals) :
    Remembers source last d' where
  lastDispatch := hlast.trans h.lastDispatch
  interval := by
    rw [hinterval, hintervals]
    exact h.interval

theorem Remembers.asked_le (h : Remembers source last d) :
    d.intervals.asked ≤ source.asked + 1 := by
  rcases h.interval with ⟨-, hsource, -⟩ | ⟨-, hsource⟩ <;> simp [hsource]

/-- The dispatcher with its interval, for which the source was asked once. -/
def resolved (source : IntervalSource) (d : Dispatcher ε) : Dispatcher ε :=
  { d with
    interval := some (source.answer source.asked)
    intervals := { source with asked := source.asked + 1 } }

theorem Remembers.resolveInterval_eq (h : Remembers source last d) :
    d.resolveInterval.1 = source.answer source.asked ∧
      d.resolveInterval.2.1 = resolved source d := by
  unfold Dispatcher.resolveInterval resolved
  rcases h.interval with ⟨hnone, hsource, -⟩ | ⟨hsome, hsource⟩
  · rw [hnone, hsource]
    exact ⟨rfl, rfl⟩
  · rw [hsome]
    refine ⟨rfl, ?_⟩
    dsimp only
    rw [← hsource, ← hsome]

/-- Once a broadcast was accepted the interval is there. -/
theorem Remembers.resolved_eq {before : Span} (h : Remembers source (some before) d) :
    resolved source d = d := by
  rcases h.interval with ⟨-, -, hnone⟩ | ⟨hsome, hsource⟩
  · cases hnone
  · unfold resolved
    rw [← hsome, ← hsource]

theorem remembers_resolved (h : Remembers source last d) :
    Remembers source last (resolved source d) :=
  ⟨h.lastDispatch, .inr ⟨rfl, rfl⟩⟩

theorem Remembers.add (h : Remembers source last d) (origin : Origin) (endpoint : ε) :
    Remembers source last (d.add origin endpoint).2.1 := by
  have hensured : Remembers source last
      ({ d with nextEndpoint := d.nextEndpoint + 1 }.ensureRecord origin).1 := by
    have hnumbered : Remembers source last { d with nextEndpoint := d.nextEndpoint + 1 } :=
      h.congr rfl rfl rfl
    unfold Dispatcher.ensureRecord
    split
    next => exact hnumbered
    next =>
      dsimp only
      rw [hnumbered.resolveInterval_eq.2]
      exact (remembers_resolved hnumbered).congr rfl rfl rfl
  exact hensured.congr rfl rfl rfl

theorem Remembers.remove (h : Remembers source last d) (r : Registration) :
    Remembers source last (d.remove r).1 := by
  unfold Dispatcher.remove
  split
  next => exact h
  next =>
    dsimp only
    split <;> exact h.congr rfl rfl rfl

theorem Remembers.startFanOut (h : Remembers source last d) (origin : Origin)
    (ticket : Option Ticket) : Remembers source last (d.startFanOut origin ticket).2.1 := by
  unfold Dispatcher.startFanOut
  cases ticket <;> dsimp only <;> split <;> exact h.congr rfl rfl rfl

variable {σ : Type} [TimerService σ (Errand κ)]

theorem Remembers.foldl_scheduleFanOut (h : Remembers source last d) (timers : σ)
    (origins : List Origin) :
    Remembers source last (origins.foldl Dispatcher.scheduleFanOut (d, timers)).1 := by
  induction origins generalizing d timers with
  | nil => exact h
  | cons origin rest ih =>
      refine ih ?_ _
      dsimp only [Dispatcher.scheduleFanOut]
      split
      next => exact h
      next => exact h.congr rfl rfl rfl

theorem Remembers.debounced_iff (h : Remembers source last d) {interval now : Span} :
    (resolved source d).debounced interval now ↔ ¬ Clear interval last now := by
  unfold Dispatcher.debounced Clear
  rw [show (resolved source d).lastDispatch = last from h.lastDispatch]
  cases last with
  | none => simp
  | some before => simp [← Span.not_lt]

/-- What a broadcast answers, what it remembers, and what it leaves alone if it is not accepted:
an early one is only counted, and one without a clock only asks for the interval. -/
theorem Remembers.broadcast (h : Remembers source last d) (visit : List Origin → List Origin)
    (timers : σ) (reading : Option Span) :
    let interval := source.answer source.asked
    let out := d.broadcast visit timers reading
    out.1 = judge interval last reading ∧
      Remembers source (carried interval last reading) out.2.1 ∧
      (out.1 = .suppressed → out.2.1 = d.suppressing ∧ out.2.2.1 = timers) ∧
      (out.1 = .unreadableClock → out.2.1 = resolved source d ∧ out.2.2.1 = timers) := by
  intro interval out
  obtain ⟨hinterval, hresolved⟩ := h.resolveInterval_eq
  cases reading with
  | none =>
      rw [show out = _ from d.broadcast_of_unreadable visit timers]
      exact ⟨rfl, hresolved ▸ remembers_resolved h, nofun, fun _ => ⟨hresolved, rfl⟩⟩
  | some now =>
      by_cases hclear : Clear interval last now
      · have hjudge : judge interval last (some now) = .accepted := judge_eq_accepted.mpr hclear
        have hready : ¬ d.resolveInterval.2.1.debounced d.resolveInterval.1 now := by
          rw [hinterval, hresolved, h.debounced_iff]
          exact not_not.mpr hclear
        rw [show out = _ from d.broadcast_of_ready visit timers hready]
        refine ⟨hjudge.symm, ?_, nofun, nofun⟩
        unfold carried
        rw [if_pos hjudge, hresolved]
        refine Remembers.foldl_scheduleFanOut ?_ _ _
        exact ⟨rfl, .inr ⟨rfl, rfl⟩⟩
      · have hearly : d.resolveInterval.2.1.debounced d.resolveInterval.1 now := by
          rw [hinterval, hresolved]
          exact h.debounced_iff.mpr hclear
        have hjudge : judge interval last (some now) = .suppressed := if_neg hclear
        -- what comes early comes after something accepted, so the interval was there
        obtain ⟨before, rfl⟩ : ∃ before, last = some before := by
          cases last with
          | none => exact absurd nofun hclear
          | some before => exact ⟨before, rfl⟩
        rw [show out = _ from d.broadcast_of_early visit timers hearly, hresolved, h.resolved_eq]
        refine ⟨hjudge.symm, ?_, fun _ => ⟨rfl, rfl⟩, nofun⟩
        unfold carried
        rw [hjudge]
        exact h.congr rfl rfl rfl

end Memory

/-! ## Moves -/

section Moves

/-- Every operation but a broadcast passes by what is remembered. -/
theorem stable_remembers {ε : Type} (source : IntervalSource) (last : Option Span) :
    Dispatcher.Stable fun d : Dispatcher ε => Remembers source last d where
  resolveInterval h := h.resolveInterval_eq.2 ▸ remembers_resolved h
  add origin endpoint h := h.add origin endpoint
  remove r h := h.remove r
  startFanOut origin ticket h := h.startFanOut origin ticket
  countNotification h := h.congr rfl rfl rfl
  vacate h := h.congr rfl rfl rfl

variable {σ δ ε κ : Type} [Timeline σ δ (Errand κ)] {source : IntervalSource}
  {last : Option Span} {s : Session σ δ ε}

/-- A broadcast that the owner calls for. -/
theorem perform_broadcast (h : Remembers source last s.dispatcher) (howned : s.standing = .owned)
    (visit : List Origin → List Origin) :
    let interval := source.answer source.asked
    let reading := Timeline.clock δ s.timers
    let out : Outcome σ δ ε κ := s.perform visit .broadcast
    out.signal = .answered (.verdict (judge interval last reading)) ∧
      Remembers source (carried interval last reading) out.session.dispatcher ∧
      (judge interval last reading = .suppressed →
        out.session = { s with dispatcher := s.dispatcher.suppressing }) ∧
      (judge interval last reading = .unreadableClock →
        out.session = { s with dispatcher := resolved source s.dispatcher }) := by
  intro interval reading out
  let answered := s.dispatcher.broadcast visit s.timers reading
  have hout : out.signal = .answered (.verdict answered.1) ∧
      out.session = { s with dispatcher := answered.2.1, timers := answered.2.2.1 } := by
    rw [show out = s.broadcast visit from if_neg fun hgone => hgone.2 howned]
    unfold Session.broadcast Session.answer
    dsimp only
    rw [if_neg (by simp [howned])]
    exact ⟨rfl, rfl⟩
  obtain ⟨hsignal, hsession⟩ := hout
  obtain ⟨hverdict, hremembers, hsuppressed, hunreadable⟩ := h.broadcast visit s.timers reading
  refine ⟨hsignal.trans (by rw [hverdict]), hsession ▸ hremembers, ?_, ?_⟩
  · intro hjudge
    obtain ⟨hdispatcher, htimers⟩ := hsuppressed (hverdict.trans hjudge)
    rw [hsession, hdispatcher, htimers]
  · intro hjudge
    obtain ⟨hdispatcher, htimers⟩ := hunreadable (hverdict.trans hjudge)
    rw [hsession, hdispatcher, htimers]

/-! ## Runs -/

/-- The broadcast of a beat, if one was called for and answered: what the clock read, and the
verdict. -/
def call? (s : Session σ δ ε) (beat : Beat σ ε) : Option (Option Span × Verdict) :=
  match beat, (next s beat : Outcome σ δ ε κ).signal with
  | .move _ .broadcast, .answered (.verdict verdict) =>
      some (Timeline.clock δ s.timers, verdict)
  | _, _ => none

/-- The broadcasts of a run. -/
def calls (s : Session σ δ ε) : List (Beat σ ε) → List (Option Span × Verdict)
  | [] => []
  | beat :: rest => (call? s beat).toList ++ calls (next s beat : Outcome σ δ ε κ).session rest

theorem calls_concat (s : Session σ δ ε) (run : List (Beat σ ε)) (beat : Beat σ ε) :
    calls s (run ++ [beat]) = calls s run ++ (call? (after s run) beat).toList := by
  induction run generalizing s with
  | nil => simp [calls, after]
  | cons first rest ih =>
      rw [List.cons_append, calls, ih, calls, List.append_assoc]
      rfl

/-- A beat calls for no broadcast and passes by what is remembered, or its broadcast is judged
by that. -/
theorem call_cases (h : Remembers source last s.dispatcher) (beat : Beat σ ε) :
    let interval := source.answer source.asked
    let s' := (next s beat : Outcome σ δ ε κ).session
    (call? s beat = none ∧ Remembers source last s'.dispatcher) ∨
      ∃ reading, call? s beat = some (reading, judge interval last reading) ∧
        Remembers source (carried interval last reading) s'.dispatcher := by
  intro interval s'
  cases beat with
  | others timers => exact .inl ⟨rfl, h⟩
  | move visit m =>
      by_cases hbroadcast : m = .broadcast
      · subst hbroadcast
        by_cases howned : s.standing = .owned
        · obtain ⟨hsignal, hremembers, -, -⟩ := perform_broadcast (κ := κ) h howned visit
          refine .inr ⟨Timeline.clock δ s.timers, ?_, hremembers⟩
          simp only [call?, next, hsignal]
          rfl
        · have hgone : (next s (.move visit .broadcast) : Outcome σ δ ε κ) =
              { session := s, signal := .answered .gone } := if_pos ⟨rfl, howned⟩
          refine .inl ⟨?_, ?_⟩
          · simp only [call?, hgone]
          · rw [show s' = s from congrArg Outcome.session hgone]
            exact h
      · have hkept := (stable_remembers source last).perform (κ := κ) h visit m
          fun heq => absurd heq hbroadcast
        refine .inl ⟨?_, hkept⟩
        unfold call?
        cases m with
        | broadcast => exact absurd rfl hbroadcast
        | _ => rfl

theorem verdicts_eq_greedy (h : Remembers source last s.dispatcher) (run : List (Beat σ ε)) :
    (calls s run).map Prod.snd =
      greedy (source.answer source.asked) last ((calls s run).map Prod.fst) := by
  induction run generalizing s last with
  | nil => rfl
  | cons beat rest ih =>
      rw [calls]
      rcases call_cases h beat with ⟨hnone, hremembers⟩ | ⟨reading, hcall, hremembers⟩
      · rw [hnone]
        exact ih hremembers
      · rw [hcall]
        exact congrArg (judge _ last reading :: ·) (ih hremembers)

/-- After a run the last reading accepted is remembered, and any two are far enough apart. -/
theorem remembers_after (h : Remembers source none s.dispatcher) (run : List (Beat σ ε)) :
    Remembers source (accepted (calls s run)).getLast? (after s run).dispatcher ∧
      (accepted (calls s run)).Pairwise fun a b => source.answer source.asked ≤ b - a := by
  induction run using List.reverseRecOn with
  | nil => exact ⟨h, .nil⟩
  | append_singleton run beat ih =>
      obtain ⟨hbefore, hspaced⟩ := ih
      rw [calls_concat, Roll.after_concat]
      rcases call_cases hbefore beat with ⟨hnone, hremembers⟩ | ⟨reading, hcall, hremembers⟩
      · rw [hnone, Option.toList_none, List.append_nil]
        exact ⟨hremembers, hspaced⟩
      · rw [hcall, Option.toList_some]
        refine ⟨(getLast?_accepted_concat _ reading).symm ▸ hremembers, ?_⟩
        rw [accepted_concat]
        split
        next haccepted =>
          cases reading with
          | none => cases haccepted
          | some now => exact spaced_concat hspaced (judge_eq_accepted.mp haccepted)
        next =>
          rw [List.append_nil]
          exact hspaced

/-- Debouncing is the greedy filter of the clock readings, over any run of a dispatcher on any
timeline: the verdicts depend on the readings and the interval alone, which is asked for once at
most, and any two broadcasts that are accepted are at least an interval apart. At every point of
the run a broadcast of the owner is answered. It is accepted if and only if none was before, or
the interval is over since the last one that was. If it comes early nothing changes but that it
is counted, and if the clock cannot be read nothing changes but that the interval is known. -/
theorem broadcasts_are_filtered (timers : σ) (frames : List (Frame δ))
    (intervals : IntervalSource) (delays : DelaySource) (run : List (Beat σ ε))
    (visit : List Origin → List Origin) :
    let start : Session σ δ ε := { timers, frames, dispatcher := { intervals, delays } }
    let interval := intervals.answer intervals.asked
    let past := calls start run
    let s := after start run
    let reading := Timeline.clock δ s.timers
    let out : Outcome σ δ ε κ := s.perform visit .broadcast
    past.map Prod.snd = greedy interval none (past.map Prod.fst) ∧
    s.dispatcher.intervals.asked ≤ intervals.asked + 1 ∧
    (accepted past).Pairwise (fun a b => interval ≤ b - a) ∧
    (s.standing = .owned → ∃ verdict, out.signal = .answered (.verdict verdict) ∧
      (verdict = .unreadableClock ↔ reading = none) ∧
      (∀ now, reading = some now →
        (verdict = .accepted ↔ ∀ before ∈ (accepted past).getLast?, interval ≤ now - before)) ∧
      (verdict = .suppressed →
        out.session = { s with dispatcher := s.dispatcher.suppressing }) ∧
      (verdict = .unreadableClock →
        out.session = { s with dispatcher := resolved intervals s.dispatcher })) := by
  intro start interval past s reading out
  have hstart : Remembers intervals none start.dispatcher := ⟨rfl, .inl ⟨rfl, rfl, rfl⟩⟩
  obtain ⟨hremembers, hspaced⟩ := remembers_after hstart run
  refine ⟨verdicts_eq_greedy hstart run, hremembers.asked_le, hspaced, fun howned => ?_⟩
  obtain ⟨hsignal, -, hsuppressed, hunreadable⟩ :=
    perform_broadcast (κ := κ) hremembers howned visit
  refine ⟨_, hsignal, judge_eq_unreadableClock, ?_, hsuppressed, hunreadable⟩
  intro now hreading
  rw [show Timeline.clock δ s.timers = some now from hreading]
  exact judge_eq_accepted

end Moves

/-- A dispatcher at an interval of a minute. -/
def minutely : Session (Agenda (Errand Unit)) Agenda.Drive Unit where
  timers := {}
  dispatcher := { intervals := ⟨fun _ => .ofSecs 60, 0⟩, delays := .scripted [.ofSecs 10] }

/-- Broadcasts at once, too early and after a minute; then the clock steps back. -/
def swaying : List (Beat (Agenda (Errand Unit)) Unit) :=
  [.move id .broadcast, .others { elapsed := .ofSecs 59 }, .move id .broadcast,
    .others { elapsed := .ofSecs 60 }, .move id .broadcast, .others { elapsed := .ofSecs 1 }]

/-- A clock that steps back puts the next broadcast off. -/
theorem broadcasts_are_filtered_swaying :
    accepted (calls minutely swaying) = [.zero, .ofSecs 60] ∧
      (after minutely swaying).standing = .owned ∧
      ((after minutely swaying).perform id .broadcast).session =
        { after minutely swaying with
          dispatcher := (after minutely swaying).dispatcher.suppressing } := by
  obtain ⟨-, -, -, hanswer⟩ := broadcasts_are_filtered minutely.timers minutely.frames
    ⟨fun _ => .ofSecs 60, 0⟩ (.scripted [.ofSecs 10]) swaying id
  obtain ⟨verdict, hsignal, -, -, hsuppressed, -⟩ := hanswer rfl
  have hearly : ((after minutely swaying).perform id .broadcast).signal =
      .answered (.verdict .suppressed) := by rfl
  cases hsignal.symm.trans hearly
  exact ⟨by decide +kernel, rfl, hsuppressed rfl⟩

end Cadence.Broadcast.Debounce
