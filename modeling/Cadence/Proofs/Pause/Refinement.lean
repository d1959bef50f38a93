import Cadence.Proofs.Pause.Changes
import Cadence.Proofs.Pause.Machine

/-! # A session follows the machine

A session in which nobody calls back makes the calls of the machine, in its order,
and shows its phase after every operation. An operation is followed up to its end
first, each call returning before the next; then the coordinator and its agenda are
compared with the machine, one operation at a time.
-/

namespace Cadence.Pause

/-! ## Operations whose calls return -/

/-- An operation makes these calls until it ends, each of which returns before the next. -/
inductive Progress.Makes (sources : List SourceId) :
    Progress (Agenda Alarm) → List Call → Coordinator → Agenda Alarm → Prop
  | ends {p : Progress (Agenda Alarm)} (none : p.next = none) :
      Makes sources p [] p.coordinator p.timers
  | calls {p : Progress (Agenda Alarm)} {call : Call} {stage : Stage} {calls : List Call}
      {c : Coordinator} {a : Agenda Alarm} (some : p.next = some (call, stage))
      (later : Makes sources (p.coordinator.resume p.timers sources stage) calls c a) :
      Makes sources p (call :: calls) c a

namespace Session

variable {sources : List SourceId} {p : Progress (Agenda Alarm)} {calls : List Call}
  {c : Coordinator} {a : Agenda Alarm}

/-- An operation that a session at rest begins makes its calls and leaves it at rest. -/
theorem settles_of_makes (h : p.Makes sources calls c a) {s : OnAgenda} (hframes : s.frames = [])
    (howned : s.standing = .owned) :
    ∃ later, calls = (s.settle .request p).signal.calls ++ later ∧
      Settles sources (s.settle .request p).session later
        { s with coordinator := c, timers := a } := by
  induction h generalizing s with
  | ends none =>
      refine ⟨[], ?_, ?_⟩ <;> simp only [settle, none, howned, reduceCtorEq, false_and, if_false]
      · rfl
      · exact .rest hframes
  | @calls p call stage calls c a some later ih =>
      obtain ⟨rest, hcalls, hrest⟩ :=
        @ih { s with coordinator := p.coordinator, timers := p.timers } hframes howned
      have hstop : (s.settle .request p).session =
          { s with
            coordinator := p.coordinator
            timers := p.timers
            frames := [.within .request stage] } := by
        simp [settle, some, hframes]
      have hresume : (s.settle .request p).session.perform (.resume sources) =
          { s with coordinator := p.coordinator, timers := p.timers }.settle .request
            (p.coordinator.resume p.timers sources stage) := by
        rw [hstop]
        simp [perform, resume, hframes]
      refine ⟨calls, by simp [settle, some, Signal.calls], ?_⟩
      rw [hcalls, ← hresume]
      rw [← hresume] at hrest
      refine .reply ?_ hrest
      rw [hstop]
      rfl

end Session

namespace Coordinator

variable {sources : List SourceId} {c : Coordinator} {a : Agenda Alarm}

/-- Sources that stay in the set are observed one after the other. -/
theorem makes_observes {added : List SourceId} (hadded : ∀ s ∈ added, s ∈ c.observed)
    (events : List Event) :
    Progress.Makes sources
      { coordinator := c, timers := a, events, next := c.observeNext added }
      (added.map .observe) c a := by
  induction added generalizing events with
  | nil => exact .ends rfl
  | cons s rest ih =>
      have hs : c.observeNext (s :: rest) = some (.observe s, .observing rest) := by
        simp [observeNext, hadded]
      rw [hs]
      exact .calls rfl (ih (fun x hx => hadded x (List.mem_cons_of_mem s hx)) [])

/-- An acquired pause is kept while sources are busy. -/
theorem adopt_of_wanted {added : List SourceId} (hbusy : c.observed ≠ [])
    (hfree : c.held = false) :
    c.adopt a added =
      { coordinator := { c with held := true }
        timers := a
        next := { c with held := true }.observeNext added } := by
  simp [adopt, hbusy, hfree]

theorem holding (hheld : c.held = true) : c = { c with held := true } := by
  rw [← hheld]

/-- The new sources of a request are those not observed before, as they are first named. -/
theorem taken_added (hattuned : Attuned c.timer a) (hascending : c.observed.Pairwise (· < ·))
    (named : List SourceId) (grace : Span) :
    (c.taken a named grace).added = (named.filter (· ∉ c.observed)).eraseDups := by
  induction named using List.reverseRecOn with
  | nil => rfl
  | append_singleton named s ih =>
      have hmem := (gathered_taken hattuned hascending named grace).mem_observed s
      rw [ih, List.mem_eraseDups, List.mem_filter] at hmem
      have hgather : c.taken a (named ++ [s]) grace = gather grace (c.taken a named grace) s :=
        List.foldl_append
      rw [hgather, List.filter_append, List.eraseDups_append, ← ih]
      unfold gather
      dsimp only
      by_cases hs : s ∈ c.observed
      · rw [if_pos (hmem.mpr (.inl hs))]
        simp [List.removeAll, hs]
      · by_cases hnamed : s ∈ named
        · rw [if_pos (hmem.mpr (.inr ⟨hnamed, by simpa using hs⟩))]
          simp [List.removeAll, hs, hnamed]
        · rw [if_neg (mt hmem.mp (by simp [hs, hnamed]))]
          simp [List.removeAll, hs, hnamed, List.eraseDups_cons]

/-- A source that leaves others behind is unobserved. -/
theorem makes_finish_among {s : SourceId} (hmem : s ∈ c.observed)
    (hothers : c.observed.erase s ≠ []) :
    (c.finish a s).Makes sources [.unobserve s] { c with observed := c.observed.erase s } a := by
  have hfinish : c.finish a s =
      { coordinator := { c with observed := c.observed.erase s }
        timers := a
        next := some (.unobserve s, .unobserved false) } := by
    simp [finish, hmem, -List.isEmpty_iff, List.isEmpty_eq_false_iff.mpr hothers]
  rw [hfinish]
  exact .calls rfl (.ends rfl)

/-- The last source to leave takes a pause without grace with it. -/
theorem makes_finish_last {s : SourceId} (hlast : c.observed = [s]) (hgrace : c.grace = .zero)
    (hheld : c.held = true) :
    (c.finish a s).Makes sources [.unobserve s, .release]
      { c with observed := [], held := false } a := by
  have hfinish : c.finish a s =
      { coordinator := { c with observed := [], held := false }
        timers := a
        events := [.releasingPause]
        next := some (.unobserve s, .unobserved true) } := by
    simp [finish, hlast, hgrace, hheld, giveUp, Span.isZero]
  rw [hfinish]
  exact .calls rfl (.calls rfl (.ends rfl))

/-- With a grace the last source leaves a running timer behind. -/
theorem makes_finish_trailing {s : SourceId} (hlast : c.observed = [s])
    (hgrace : c.grace ≠ .zero) :
    (c.finish a s).Makes sources [.unobserve s]
      { c with observed := [], grace := .zero, timer := (c.timer.start a c.grace Alarm.mk).1 }
      (c.timer.start a c.grace Alarm.mk).2 := by
  have hzero : c.grace.isZero = false :=
    Bool.eq_false_iff.mpr fun heq => hgrace (Span.isZero_iff.mp heq)
  have hfinish : c.finish a s =
      { coordinator :=
          { c with observed := [], grace := .zero, timer := (c.timer.start a c.grace Alarm.mk).1 }
        timers := (c.timer.start a c.grace Alarm.mk).2
        events := [.armingRelease s c.grace]
        next := some (.unobserve s, .unobserved false) } := by
    simp [finish, hlast, hzero]
  rw [hfinish]
  exact .calls rfl (.ends rfl)

theorem taken_elapsed (named : List SourceId) (grace : Span) :
    (c.taken a named grace).timers.elapsed = a.elapsed := by
  unfold taken
  induction named using List.reverseRecOn with
  | nil => rfl
  | append_singleton named s ih =>
      rw [List.foldl_append]
      refine Eq.trans ?_ ih
      dsimp only [List.foldl_cons, List.foldl_nil]
      unfold gather
      dsimp only
      split <;> exact OneShot.elapsed_stop _ _

end Coordinator

/-! ## A coordinator that mirrors the machine -/

/-- The coordinator and its agenda are those of a machine. -/
structure Mirrors (m : Machine) (c : Coordinator) (a : Agenda Alarm) : Prop where
  attuned : Attuned c.timer a
  ascending : c.observed.Pairwise (· < ·)
  elapsed : a.elapsed = m.elapsed
  sources : ∀ s, s ∈ c.observed ↔ s ∈ m.phase.sources
  busy : m.phase.status = .active ↔ c.observed ≠ []
  grace : c.grace = m.phase.grace
  held : c.held = true ↔ m.phase.status ≠ .idle
  running : c.timer.armed = true ↔ m.phase.status = .trailing
  deadline : ∀ deadline, m.phase = .trailing deadline →
    ∃ e, a.queue = [e] ∧ e.key.deadline = deadline

namespace Mirrors

variable {m : Machine} {c : Coordinator} {a : Agenda Alarm}

theorem fresh : Mirrors {} {} {} where
  attuned := .fresh
  ascending := .nil
  elapsed := rfl
  sources := by simp [Phase.sources]
  busy := by simp [Phase.status]
  grace := rfl
  held := by simp [Phase.status]
  running := by simp [Phase.status]
  deadline := nofun

/-- The phase shows in the reported status. -/
theorem status (h : Mirrors m c a) : c.status = m.phase.status := by
  have hbusy := h.busy
  have hrunning := h.running
  unfold Coordinator.status OneShot.isRunning
  cases hphase : m.phase.status <;> rw [hphase] at hbusy hrunning <;> simp_all

/-- Once sources were taken in, the coordinator is active for them and holds the pause. -/
theorem taken (h : Mirrors m c a) {named : List SourceId} (hnamed : named ≠ []) (grace : Span) :
    Mirrors (m.pause named grace).2
      { (c.taken a named grace).coordinator with held := true }
      (c.taken a named grace).timers := by
  have hgathered := Coordinator.gathered_taken h.attuned h.ascending named grace
  obtain ⟨hidle, hpeopled⟩ := Coordinator.taken_stirs (c := c) (a := a) grace hnamed
  have hadded := Coordinator.taken_added h.attuned h.ascending named grace
  simp only [Machine.pause, if_neg hnamed]
  constructor
  case attuned => exact hgathered.attuned
  case ascending => exact hgathered.ascending
  case elapsed => exact (Coordinator.taken_elapsed named grace).trans h.elapsed
  case sources =>
    intro s
    show s ∈ (c.taken a named grace).coordinator.observed ↔ s ∈ m.phase.sources ∪ named.toFinset
    rw [hgathered.mem_observed, hadded, List.mem_eraseDups, List.mem_filter, Finset.mem_union,
      List.mem_toFinset, ← h.sources]
    by_cases hs : s ∈ c.observed <;> simp [hs]
  case busy => simpa [Phase.status] using hpeopled
  case grace =>
    rw [Coordinator.taken_grace hnamed, h.grace]
    rfl
  case held => simp [Phase.status]
  case running => simp [Phase.status, hidle]
  case deadline => nofun

/-- A pause makes the calls of the machine's pause. -/
theorem pause (h : Mirrors m c a) (sources named : List SourceId) (grace : Span) :
    ∃ c' a', (c.pause a named grace).Makes sources (m.pause named grace).1 c' a' ∧
      Mirrors (m.pause named grace).2 c' a' := by
  by_cases hnamed : named = []
  · subst hnamed
    rw [Coordinator.pause_observes (by simp)]
    exact ⟨_, _, .ends rfl, h⟩
  · have hgathered := Coordinator.gathered_taken h.attuned h.ascending named grace
    have hadded := Coordinator.taken_added h.attuned h.ascending named grace
    have hobserved : ∀ s ∈ (c.taken a named grace).added,
        s ∈ (c.taken a named grace).coordinator.observed :=
      fun s hs => (hgathered.mem_observed s).mpr (.inr hs)
    have hnew : named.filter (· ∉ c.observed) = named.filter (· ∉ m.phase.sources) :=
      List.filter_congr fun s _ => by simp [h.sources]
    refine ⟨_, _, ?_, h.taken hnamed grace⟩
    simp only [Machine.pause, if_neg hnamed]
    rw [← hnew, ← hadded]
    by_cases hidle : m.phase.status = .idle
    · have hfree : c.held = false := by simpa [hidle] using h.held
      rw [Coordinator.pause_acquires hnamed hfree, if_pos hidle]
      refine .calls rfl ?_
      show (Coordinator.adopt _ _ _).Makes _ _ _ _
      rw [Coordinator.adopt_of_wanted (Coordinator.taken_stirs grace hnamed).2
        ((Coordinator.taken_held named grace).trans hfree)]
      exact Coordinator.makes_observes
        (c := { (c.taken a named grace).coordinator with held := true }) hobserved []
    · have hheld : c.held = true := h.held.mpr hidle
      rw [Coordinator.pause_observes (by simp [hheld]), if_neg hidle,
        ← Coordinator.holding ((Coordinator.taken_held named grace).trans hheld)]
      exact Coordinator.makes_observes hobserved []

section Finish

variable {elapsed grace : Span} {busy : Finset SourceId} {source : SourceId}

/-- A busy source is the last one if nothing is left in the set without it. -/
theorem last_iff (h : Mirrors ⟨elapsed, .active busy grace⟩ c a) (hmem : source ∈ c.observed) :
    c.observed.erase source = [] ↔ busy = {source} := by
  have hnodup : c.observed.Nodup := h.ascending.imp Nat.ne_of_lt
  have hsources : ∀ s, s ∈ c.observed ↔ s ∈ busy := h.sources
  simp only [List.eq_nil_iff_forall_not_mem, hnodup.mem_erase_iff, hsources,
    ← Finset.mem_erase]
  rw [← Finset.eq_empty_iff_forall_notMem, Finset.erase_eq_empty_iff]
  exact or_iff_right (Finset.ne_empty_of_mem ((hsources source).mp hmem))

/-- The source that finishes is one of several. -/
theorem finish_among (h : Mirrors ⟨elapsed, .active busy grace⟩ c a)
    (hothers : c.observed.erase source ≠ []) :
    Mirrors ⟨elapsed, .active (busy.erase source) grace⟩
      { c with observed := c.observed.erase source } a where
  attuned := h.attuned
  ascending := h.ascending.sublist List.erase_sublist
  elapsed := h.elapsed
  sources s := by
    have hnodup : c.observed.Nodup := h.ascending.imp Nat.ne_of_lt
    rw [hnodup.mem_erase_iff, h.sources]
    exact Finset.mem_erase.symm
  busy := ⟨fun _ => hothers, fun _ => rfl⟩
  grace := h.grace
  held := h.held
  running := h.running
  deadline := nofun

/-- The last source finishes without a grace. -/
theorem finish_last (h : Mirrors ⟨elapsed, .active busy .zero⟩ c a) :
    Mirrors ⟨elapsed, .idle⟩ { c with observed := [], held := false } a where
  attuned := h.attuned
  ascending := .nil
  elapsed := h.elapsed
  sources := by simp [Phase.sources]
  busy := by simp [Phase.status]
  grace := h.grace
  held := by simp [Phase.status]
  running := by simpa [Phase.status] using h.running
  deadline := nofun

/-- The last source finishes, and the pause trails for the grace. -/
theorem finish_trailing (h : Mirrors ⟨elapsed, .active busy grace⟩ c a) :
    Mirrors ⟨elapsed, .trailing (elapsed + grace)⟩
      { c with observed := [], grace := .zero, timer := (c.timer.start a grace Alarm.mk).1 }
      (c.timer.start a grace Alarm.mk).2 where
  attuned := h.attuned.start grace
  ascending := .nil
  elapsed := (OneShot.elapsed_stop c.timer a).trans h.elapsed
  sources := by simp [Phase.sources]
  busy := by simp [Phase.status]
  grace := rfl
  held := by simpa [Phase.status] using h.held
  running := by simp [Phase.status, OneShot.start]
  deadline := by
    intro deadline hphase
    cases hphase
    refine ⟨_, h.attuned.start_queue grace, ?_⟩
    show (c.timer.stop a).2.elapsed + grace = _
    rw [OneShot.elapsed_stop c.timer a, h.elapsed]

/-- A finish makes the calls of the machine's finish. -/
theorem finish (h : Mirrors m c a) (sources : List SourceId) (source : SourceId) :
    ∃ c' a', (c.finish a source).Makes sources (m.finish source).1 c' a' ∧
      Mirrors (m.finish source).2 c' a' := by
  obtain ⟨elapsed, phase⟩ := m
  by_cases hmem : source ∈ c.observed
  · have hsource : source ∈ phase.sources := (h.sources source).mp hmem
    cases phase with
    | idle => exact absurd hsource (Finset.notMem_empty source)
    | trailing deadline => exact absurd hsource (Finset.notMem_empty source)
    | active busy grace =>
        have hbusy : source ∈ busy := hsource
        have hheld : c.held = true := h.held.mpr nofun
        have hlast := h.last_iff hmem
        unfold Machine.finish
        dsimp only
        rw [if_neg (not_not.mpr hbusy)]
        split
        next hothers =>
          have hsome : c.observed.erase source ≠ [] := mt hlast.mp hothers
          exact ⟨_, _, Coordinator.makes_finish_among hmem hsome, h.finish_among hsome⟩
        next hnone =>
          have hobserved : c.observed = [source] :=
            (List.erase_eq_nil_iff.mp (hlast.mpr (not_not.mp hnone))).resolve_left
              (List.ne_nil_of_mem hmem)
          split
          next hgrace =>
            subst hgrace
            exact ⟨_, _, Coordinator.makes_finish_last hobserved h.grace hheld, h.finish_last⟩
          next hgrace =>
            have hsame : c.grace = grace := h.grace
            refine ⟨_, _, Coordinator.makes_finish_trailing hobserved (hsame ▸ hgrace), ?_⟩
            rw [hsame]
            exact h.finish_trailing
  · have hfinish : c.finish a source = { coordinator := c, timers := a } := if_neg hmem
    have hquiet : Machine.finish ⟨elapsed, phase⟩ source = ([], ⟨elapsed, phase⟩) := by
      cases phase with
      | active busy grace => exact if_pos (mt (h.sources source).mpr hmem)
      | _ => rfl
    rw [hfinish, hquiet]
    exact ⟨_, _, .ends rfl, h⟩

end Finish

/-- A drive that ends sets the time and nothing else. -/
theorem settled (h : Mirrors m c a) {d : Agenda.Drive} (haimed : d.Aimed)
    (hnone : a.popDue d.limit = none) :
    Mirrors { m with elapsed := (a.settled d).elapsed } c (a.settled d) where
  attuned := h.attuned.settled haimed hnone
  ascending := h.ascending
  elapsed := rfl
  sources := h.sources
  busy := h.busy
  grace := h.grace
  held := h.held
  running := h.running
  deadline := h.deadline

/-- Only a trailing pause has a task that waits. -/
theorem trailing_of_queue (h : Mirrors m c a) (hqueue : a.queue ≠ []) :
    ∃ e, m.phase = .trailing e.key.deadline ∧ a.queue = [e] := by
  have hstatus := h.running.mp (by simpa using mt h.attuned.idle hqueue)
  cases hphase : m.phase with
  | trailing deadline =>
      obtain ⟨e, hsingle, hdeadline⟩ := h.deadline deadline hphase
      exact ⟨e, hdeadline ▸ rfl, hsingle⟩
  | idle =>
      rw [hphase] at hstatus
      cases hstatus
  | active busy grace =>
      rw [hphase] at hstatus
      cases hstatus

theorem trailing_of_popDue (h : Mirrors m c a) {limit : Span} {e : Entry Alarm}
    {b : Agenda Alarm} (hpop : a.popDue limit = some (e, b)) :
    m.phase = .trailing e.key.deadline ∧ b.queue = [] := by
  obtain ⟨rest, hqueue, _⟩ := Agenda.popDue_eq_some_iff.mp hpop
  obtain ⟨found, hphase, hsingle⟩ := h.trailing_of_queue (by simp [hqueue])
  obtain ⟨rfl, hempty⟩ := Agenda.popDue_of_singleton hsingle hpop
  exact ⟨hphase, hempty⟩

/-- A pause does not expire before its deadline. -/
theorem expire_of_popDue (h : Mirrors m c a) {limit : Span} (hnone : a.popDue limit = none) :
    m.expire limit = ([], m) := by
  unfold Machine.expire
  split
  next deadline hphase =>
    obtain ⟨e, hqueue, rfl⟩ := h.deadline deadline hphase
    have hlater := h.attuned.sound.lt_of_popDue_eq_none hnone (e := e) (by simp [hqueue])
    rw [if_neg fun hdue => Span.not_lt.mpr hdue hlater]
  next => rfl

/-- The task of the timer leaves the coordinator idle. -/
theorem fired (h : Mirrors m c a) {limit : Span} {e : Entry Alarm} {b : Agenda Alarm}
    (hpop : a.popDue limit = some (e, b)) :
    Mirrors ⟨e.key.deadline, .idle⟩
      { c with held := false, timer := { c.timer with armed := false } } (b.started e) where
  attuned := (h.attuned.of_popDue hpop).2.2
  ascending := h.ascending
  elapsed := h.attuned.sound.started_elapsed hpop
  sources := by
    have hsources := h.sources
    rw [(h.trailing_of_popDue hpop).1] at hsources
    exact hsources
  busy := by
    have hbusy := h.busy
    rw [(h.trailing_of_popDue hpop).1] at hbusy
    simpa [Phase.status] using hbusy
  grace := by
    rw [h.grace, (h.trailing_of_popDue hpop).1]
    rfl
  held := by simp [Phase.status]
  running := by simp [Phase.status]
  deadline := nofun

end Mirrors

/-! ## Drives -/

namespace Session

variable {m : Machine} {s : OnAgenda} {d : Agenda.Drive} {sources : List SourceId}

/-- A session at rest that mirrors a machine. -/
structure Shows (m : Machine) (s : OnAgenda) : Prop where
  still : s.frames = []
  owned : s.standing = .owned
  mirrors : Mirrors m s.coordinator s.timers

/-- Where nothing is due any more, a drive ends at its limit. -/
theorem settles_over (sources : List SourceId) (hframes : s.frames = [.travelling d])
    (howned : s.standing = .owned) (hmirrors : Mirrors m s.coordinator s.timers)
    (haimed : d.Aimed) (hstill : d.settle = none → s.timers.elapsed = d.limit)
    (hnone : s.timers.popDue d.limit = none) :
    ∃ t, Settles sources s [] t ∧ Shows { m with elapsed := d.limit } t := by
  have helapsed : (s.timers.settled d).elapsed = d.limit := by
    show d.settle.getD s.timers.elapsed = _
    cases hsettle : d.settle with
    | none => exact hstill hsettle
    | some time => exact haimed time hsettle
  have hmirrors' := helapsed ▸ hmirrors.settled haimed hnone
  have hnext : s.reply sources = some .proceed := by simp [Session.reply, hframes]
  cases s.proceeds with
  | runs d' rest e b before due =>
      cases before.symm.trans hframes
      cases due.symm.trans hnone
  | rests still => exact absurd hframes (still d [])
  | ends d' rest before idle out =>
      cases before.symm.trans hframes
      refine ⟨{ s with timers := s.timers.settled d, frames := [] }, ?_, rfl, howned, hmirrors'⟩
      have hsettles := Settles.reply hnext (.rest (by rw [out]))
      rw [out] at hsettles
      exact hsettles

/-- A pause whose deadline has come is released, and the drive goes on from there. -/
theorem settles_due (hframes : s.frames = [.travelling d])
    (hmirrors : Mirrors m s.coordinator s.timers) {e : Entry Alarm} {b : Agenda Alarm}
    (hpop : s.timers.popDue d.limit = some (e, b)) {calls : List Call} {t : OnAgenda}
    (hlater : Settles sources
      { s with
        timers := b.started e
        coordinator := { s.coordinator with
          held := false
          timer := { s.coordinator.timer with armed := false } }
        frames := [.travelling { d with ran := d.ran + 1 }] } calls t) :
    Settles sources s (.release :: calls) t := by
  obtain ⟨_, hfire, _⟩ := hmirrors.attuned.of_popDue hpop
  have hheld : s.coordinator.held = true := by
    rw [hmirrors.held, (hmirrors.trailing_of_popDue hpop).1]
    nofun
  have hnext : s.reply sources = some .proceed := by simp [Session.reply, hframes]
  cases s.proceeds with
  | ends d' rest before idle out =>
      cases before.symm.trans hframes
      cases idle.symm.trans hpop
  | rests still => exact absurd hframes (still d [])
  | runs d' rest e' b' before due out =>
      cases before.symm.trans hframes
      cases due.symm.trans hpop
      have hstop : s.perform .proceed =
          { session := { s with
              timers := b.started e
              coordinator := { s.coordinator with
                held := false
                timer := { s.coordinator.timer with armed := false } }
              frames := [.within .alarm .finished, .travelling { d with ran := d.ran + 1 }] }
            events := [.runningTask .agenda e.id, .releasingPause]
            signal := .called .release } := by
        rw [out]
        simp [Coordinator.alarm, hfire, settle, Coordinator.giveUp, hheld, opened]
      have hreturn : Settles sources (s.perform .proceed).session calls t := by
        rw [hstop]
        exact Settles.reply (m := .resume sources) rfl hlater
      have hsettles := Settles.reply hnext hreturn
      rw [hstop] at hsettles
      exact hsettles

/-- A drive makes the calls of the machine's expiry and ends at its limit. -/
theorem settles_drive (sources : List SourceId) (hframes : s.frames = [.travelling d])
    (howned : s.standing = .owned) (hmirrors : Mirrors m s.coordinator s.timers)
    (haimed : d.Aimed) (hstill : d.settle = none → s.timers.elapsed = d.limit) :
    ∃ t, Settles sources s (m.expire d.limit).1 t ∧
      Shows { (m.expire d.limit).2 with elapsed := d.limit } t := by
  cases hpop : s.timers.popDue d.limit with
  | none =>
      rw [hmirrors.expire_of_popDue hpop]
      exact settles_over sources hframes howned hmirrors haimed hstill hpop
  | some found =>
      obtain ⟨e, b⟩ := found
      obtain ⟨hphase, hempty⟩ := hmirrors.trailing_of_popDue hpop
      obtain ⟨_, hqueue, hdue, _⟩ := Agenda.popDue_eq_some_iff.mp hpop
      have hexpire : m.expire d.limit = ([.release], { m with phase := .idle }) := by
        simp [Machine.expire, hphase, hdue]
      have hover : (b.started e).popDue d.limit = none := by
        simp [Agenda.popDue, Agenda.started, hempty]
      have helapsed := hmirrors.attuned.sound.started_elapsed hpop
      have hstill' : d.settle = none → (b.started e).elapsed = d.limit := by
        -- a drive that stands still runs what is due now
        intro hsettle
        have hnow : s.timers.elapsed ≤ e.key.deadline :=
          hmirrors.attuned.sound.not_overdue e (by simp [hqueue])
        exact helapsed.trans (Span.le_antisymm hdue (hstill hsettle ▸ hnow))
      obtain ⟨t, hsettles, hshows⟩ := settles_over
        (s := { s with
          timers := b.started e
          coordinator := { s.coordinator with
            held := false
            timer := { s.coordinator.timer with armed := false } }
          frames := [.travelling { d with ran := d.ran + 1 }] })
        sources rfl howned (hmirrors.fired hpop) haimed hstill' hover
      rw [hexpire]
      exact ⟨t, settles_due hframes hmirrors hpop hsettles, hshows⟩

/-- The calls of an operation lead a session from rest to rest. -/
def Carries (s : OnAgenda) (operation : Operation) (calls : List Call) (t : OnAgenda) : Prop :=
  ∃ later, calls = (s.perform operation.move).signal.calls ++ later ∧
    Settles operation.answer (s.perform operation.move).session later t

theorem carries_of_makes (hframes : s.frames = []) (howned : s.standing = .owned)
    {operation : Operation} {p : Progress (Agenda Alarm)}
    (hoperation : s.perform operation.move = s.request p) {calls : List Call} {c : Coordinator}
    {a : Agenda Alarm} (hmakes : p.Makes operation.answer calls c a) :
    s.Carries operation calls { s with coordinator := c, timers := a } := by
  obtain ⟨later, hcalls, hsettles⟩ := settles_of_makes hmakes hframes howned
  have hrequest : s.request p = s.settle .request p := if_pos howned
  refine ⟨later, ?_, ?_⟩ <;> rw [hoperation, hrequest]
  · exact hcalls
  · exact hsettles

theorem Shows.depart (h : Shows m s) {t : Travel} (hdepart : s.timers.depart t = .inl d)
    (hstill : d.settle = none → s.timers.elapsed = d.limit) :
    ∃ u, s.Carries (.travel t) (m.expire d.limit).1 u ∧
      Shows { (m.expire d.limit).2 with elapsed := d.limit } u := by
  have hperform : s.perform (.travel t) = { session := { s with frames := [.travelling d] } } := by
    show s.travel t = _
    unfold Session.travel
    rw [show Timeline.depart s.timers t = .inl d from hdepart, h.still]
  obtain ⟨u, hsettles, hshows⟩ := settles_drive (s := { s with frames := [.travelling d] }) []
    rfl h.owned h.mirrors (Agenda.depart_aimed hdepart) hstill
  refine ⟨u, ⟨(m.expire d.limit).1, ?_, ?_⟩, hshows⟩ <;> rw [Operation.move, hperform]
  · rfl
  · exact hsettles

theorem Shows.travel (h : Shows m s) (t : Travel) :
    ∃ u, s.Carries (.travel t) (m.travel t).1 u ∧ Shows (m.travel t).2 u := by
  have helapsed := h.mirrors.elapsed
  cases t with
  | advance distance =>
      rw [Machine.travel, ← helapsed]
      exact h.depart (t := .advance distance) (d := s.timers.advance distance) rfl
        fun hsettle => absurd hsettle (Option.some_ne_none _)
  | runUntilIdle =>
      have hsame : { (m.expire m.elapsed).2 with elapsed := m.elapsed } =
          (m.expire m.elapsed).2 := by
        unfold Machine.expire
        repeat' split
        all_goals rfl
      rw [Machine.travel, ← hsame, ← helapsed]
      exact h.depart (t := .runUntilIdle) (d := { limit := s.timers.elapsed, settle := none }) rfl
        fun _ => rfl
  | fastForward =>
      cases hdelay : s.timers.nextDelay with
      | none =>
          have hempty : s.timers.queue = [] := by simpa [Agenda.nextDelay] using hdelay
          have hquiet : m.travel .fastForward = ([], m) := by
            cases hphase : m.phase with
            | trailing deadline =>
                obtain ⟨e, hqueue, _⟩ := h.mirrors.deadline deadline hphase
                cases hqueue.symm.trans hempty
            | _ => simp [Machine.travel, hphase]
          have hperform : s.perform (.travel .fastForward) =
              { session := s, signal := .answered (.arrived (.jumped none)) } := by
            show s.travel _ = _
            simp [Session.travel, Timeline.depart, Agenda.depart, hdelay]
          rw [hquiet]
          refine ⟨s, ⟨[], ?_, ?_⟩, h⟩ <;> rw [Operation.move, hperform]
          · rfl
          · exact .rest h.still
      | some delay =>
          obtain ⟨e, hphase, hqueue⟩ := h.mirrors.trailing_of_queue (by
            rintro hempty
            simp [Agenda.nextDelay, hempty] at hdelay)
          have hnow : s.timers.elapsed ≤ e.key.deadline :=
            h.mirrors.attuned.sound.not_overdue e (by simp [hqueue])
          have htarget : s.timers.elapsed + delay = e.key.deadline := by
            have hsub : e.key.deadline - s.timers.elapsed = delay := by
              simpa [Agenda.nextDelay, hqueue] using hdelay
            rw [← hsub, Span.add_sub_of_le hnow]
          have hjump := h.depart (t := .fastForward)
            (d := { s.timers.advance delay with jump := some delay })
            (by simp [Agenda.depart, hdelay])
            fun hsettle => absurd hsettle (Option.some_ne_none _)
          have hlimit : ({ s.timers.advance delay with jump := some delay } : Agenda.Drive).limit =
              e.key.deadline := htarget
          rw [hlimit] at hjump
          simpa [Machine.travel, Machine.expire, hphase, Span.le_refl] using hjump

/-- A session at rest carries an operation out as the machine does. -/
theorem Shows.step (h : Shows m s) (operation : Operation) :
    ∃ t, s.Carries operation (m.step operation).1 t ∧ Shows (m.step operation).2 t := by
  cases operation with
  | travel t => exact h.travel t
  | pause sources grace =>
      obtain ⟨c, a, hmakes, hmirrors⟩ := h.mirrors.pause [] sources grace
      exact ⟨_, carries_of_makes h.still h.owned rfl hmakes, h.still, h.owned, hmirrors⟩
  | pauseAll sources grace =>
      obtain ⟨c, a, hmakes, hmirrors⟩ := h.mirrors.pause sources sources grace
      have hlisted : Progress.Makes sources
          { coordinator := s.coordinator, timers := s.timers,
            next := some (.allSources, .listing grace) }
          (.allSources :: (m.pause sources grace).1) c a := .calls rfl hmakes
      exact ⟨_, carries_of_makes h.still h.owned rfl hlisted, h.still, h.owned, hmirrors⟩
  | finish source =>
      obtain ⟨c, a, hmakes, hmirrors⟩ := h.mirrors.finish [] source
      exact ⟨_, carries_of_makes h.still h.owned rfl hmakes, h.still, h.owned, hmirrors⟩

/-- A session at rest carries a run out as the machine does. -/
theorem Shows.run (h : Shows m s) (operations : List Operation) :
    ∃ t, Plays s operations (m.run operations).1 t ∧ Shows (m.run operations).2 t := by
  induction operations generalizing m s with
  | nil => exact ⟨s, .nil s, h⟩
  | cons operation rest ih =>
      obtain ⟨t, ⟨later, hcalls, hsettles⟩, hshows⟩ := h.step operation
      obtain ⟨u, hplays, hfinal⟩ := ih hshows
      refine ⟨u, ?_, hfinal⟩
      show Plays s _ ((m.step operation).1 ++ _) u
      rw [hcalls]
      exact .cons hsettles hplays

/-- Where collaborators do not call back, the calls of every run are those of the machine, and
after it the coordinator shows the machine's phase: its status, its sources, its grace, and the
pause is held unless it is idle. -/
theorem coordinator_follows_machine (operations : List Operation) :
    ∃ s, Plays fresh operations (Machine.run {} operations).1 s ∧
      (∀ calls t, Plays fresh operations calls t →
        calls = (Machine.run {} operations).1 ∧ t = s) ∧
      s.frames = [] ∧
      s.timers.elapsed = (Machine.run {} operations).2.elapsed ∧
      s.coordinator.status = (Machine.run {} operations).2.phase.status ∧
      s.coordinator.grace = (Machine.run {} operations).2.phase.grace ∧
      s.coordinator.observed.Pairwise (· < ·) ∧
      s.coordinator.observed.toFinset = (Machine.run {} operations).2.phase.sources ∧
      (s.coordinator.held = true ↔ (Machine.run {} operations).2.phase.status ≠ .idle) := by
  obtain ⟨s, hplays, hshows⟩ := Shows.run (s := fresh) ⟨rfl, rfl, Mirrors.fresh⟩ operations
  have hmirrors := hshows.mirrors
  refine ⟨s, hplays, fun calls t h => hplays.unique h, hshows.still, hmirrors.elapsed,
    hmirrors.status, hmirrors.grace, hmirrors.ascending, ?_, hmirrors.held⟩
  ext source
  rw [List.mem_toFinset]
  exact hmirrors.sources source

end Session

end Cadence.Pause
