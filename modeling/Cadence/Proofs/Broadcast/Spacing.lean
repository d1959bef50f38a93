import Cadence.Proofs.Broadcast.Conservation
import Cadence.Proofs.Broadcast.Delays
import Cadence.Proofs.Broadcast.Recreation

/-! # Spacing of broadcasts

A fan-out is due less than an interval after its broadcast, and the next broadcast
is accepted no earlier than that. As nothing that waits is overdue, no fan-out of an
earlier broadcast waits any more by then, so that fan-outs begin in the order of
their broadcasts.
-/

namespace Cadence.Broadcast

variable {ε κ : Type}

namespace Dispatcher

variable {d d' : Dispatcher ε}

/-- No ticket was handed out and no broadcast accepted. -/
structure Idle (d d' : Dispatcher ε) : Prop where
  nextTicket : d'.nextTicket = d.nextTicket
  lastDispatch : d'.lastDispatch = d.lastDispatch

theorem Idle.refl (d : Dispatcher ε) : d.Idle d := ⟨rfl, rfl⟩

theorem idle_resolveInterval (d : Dispatcher ε) : d.Idle d.resolveInterval.2.1 := by
  unfold resolveInterval
  split <;> exact ⟨rfl, rfl⟩

theorem idle_add (d : Dispatcher ε) (origin : Origin) (endpoint : ε) :
    d.Idle (d.add origin endpoint).2.1 := by
  have hensured : ∀ e : Dispatcher ε, e.Idle (e.ensureRecord origin).1 := by
    intro e
    unfold ensureRecord
    split
    next => exact .refl e
    next => exact ⟨e.idle_resolveInterval.nextTicket, e.idle_resolveInterval.lastDispatch⟩
  have h := hensured { d with nextEndpoint := d.nextEndpoint + 1 }
  exact ⟨h.nextTicket, h.lastDispatch⟩

theorem idle_remove (d : Dispatcher ε) (r : Registration) : d.Idle (d.remove r).1 := by
  unfold remove
  split
  next => exact .refl d
  next =>
    dsimp only
    split <;> exact ⟨rfl, rfl⟩

theorem Idle.told (h : d.Idle d') (notified : Bool) : d.Idle (d'.told notified) := by
  cases notified <;> exact ⟨h.nextTicket, h.lastDispatch⟩

theorem idle_startFanOut (d : Dispatcher ε) (origin : Origin) (ticket : Option Ticket) :
    d.Idle (d.startFanOut origin ticket).2.1 := by
  unfold startFanOut
  cases ticket <;> dsimp only <;> split <;> exact ⟨rfl, rfl⟩

end Dispatcher

/-! ## What waits -/

section Steps

variable {s s' : OnAgenda ε κ} {h : Happening ε κ} {share : Tally}
  {call : Option (Call ε κ)} {interval : Span}

/-- What a happening does to the fan-outs that wait. -/
inductive Traffic (s : OnAgenda ε κ) (h : Happening ε κ) (s' : OnAgenda ε κ) : Prop
  /-- Nothing. -/
  | still (idle : s.dispatcher.Idle s'.dispatcher)
      (bookings : (bookings s'.timers).Perm (bookings s.timers))
  /-- A broadcast is accepted at a time that is far enough from the last one. -/
  | scatter (now : Span) (origins : List Origin) (clock : s.timers.clock = some now)
      (spaced : s.dispatcher.resolveInterval.2.1.debounced s.dispatcher.resolveInterval.1 now =
        false)
      (visited : origins.Perm (s.dispatcher.records.map Prod.fst))
      (scattered : Scattered s.dispatcher s.timers origins s'.dispatcher s'.timers)
      (lastDispatch : s'.dispatcher.lastDispatch = some now)
  /-- A fan-out comes up. -/
  | fire (b : Booking) (deed : Deed ε κ) (turn : h = .deed deed)
      (fires : s.Fires deed b.ticket b.origin) (idle : s.dispatcher.Idle s'.dispatcher)
      (bookings : bookings s.timers = b :: bookings s'.timers)

theorem foldl_scheduleFanOut_lastDispatch (d : Dispatcher ε) (a : Agenda (Errand κ))
    (origins : List Origin) :
    (origins.foldl Dispatcher.scheduleFanOut (d, a)).1.lastDispatch = d.lastDispatch := by
  induction origins generalizing d a with
  | nil => rfl
  | cons o rest ih =>
      rw [List.foldl_cons]
      refine (ih _ _).trans ?_
      show (Dispatcher.scheduleFanOut (d, a) o).1.lastDispatch = _
      unfold Dispatcher.scheduleFanOut
      dsimp only
      split <;> rfl

theorem traffic_of_accept {route : Route} {now : Span} (hclock : s.timers.clock = some now)
    (hspaced : s.dispatcher.resolveInterval.2.1.debounced s.dispatcher.resolveInterval.1 now =
      false)
    (hstate : (s'.dispatcher, s'.timers) =
      (route.visit (s.dispatcher.records.map Prod.fst)).foldl Dispatcher.scheduleFanOut
        (s.dispatcher.resolveInterval.2.1.accepting now, s.timers)) : Traffic s h s' := by
  have hresolved := s.dispatcher.resolveInterval_kept
  have hkept : s.dispatcher.Kept (s.dispatcher.resolveInterval.2.1.accepting now) :=
    ⟨hresolved.records, hresolved.nextEndpoint, hresolved.nextTicket⟩
  have hscattered := scattered_visit hkept route s.timers
  have hlast := foldl_scheduleFanOut_lastDispatch
    (s.dispatcher.resolveInterval.2.1.accepting now) s.timers
    (route.visit (s.dispatcher.records.map Prod.fst))
  rw [hkept.records, ← hstate] at hscattered
  rw [← hstate] at hlast
  exact .scatter now _ hclock hspaced (route.perm _) hscattered hlast

theorem Effect.traffic (heffect : Effect s h share call s') (hsound : s.Sound) :
    Traffic s h s' := by
  have hsame : (bookings s.timers).Perm (bookings s.timers) := List.Perm.refl _
  cases heffect with
  | rest dispatcher timers _ _ => exact .still (dispatcher ▸ .refl _) (timers ▸ hsame)
  | resolve dispatcher timers _ _ =>
      exact .still (dispatcher ▸ s.dispatcher.idle_resolveInterval) (timers ▸ hsame)
  | enroll _ origin endpoint _ _ dispatcher timers _ _ =>
      exact .still (dispatcher ▸ s.dispatcher.idle_add origin endpoint) (timers ▸ hsame)
  | strike _ r _ dispatcher timers _ _ =>
      exact .still (dispatcher ▸ s.dispatcher.idle_remove r) (timers ▸ hsame)
  | suppress dispatcher timers _ _ =>
      have hresolved := s.dispatcher.idle_resolveInterval
      refine .still ?_ (timers ▸ hsame)
      rw [dispatcher]
      exact ⟨hresolved.nextTicket, hresolved.lastDispatch⟩
  | accept route now clock spaced state _ _ => exact traffic_of_accept clock spaced state
  | call origin told dispatcher timers _ _ =>
      refine .still ?_ (timers ▸ hsame)
      rw [dispatcher]
      exact (s.dispatcher.idle_startFanOut origin none).told told.isSome
  | fire route drive rest e b origin ticket told turn before due task dispatcher timers _ _ =>
      refine .fire ⟨ticket, origin, e.key.deadline⟩ (.move route .proceed) turn
        ⟨route, drive, rest, e, b, rfl, before, due, task⟩ ?_ ?_
      · rw [dispatcher]
        exact (s.dispatcher.idle_startFanOut origin (some ticket)).told told.isSome
      · rw [timers, bookings_of_popDue due, booking?_of_fanOut task]
        rfl
  | next _ dispatcher timers _ _ =>
      exact .still (dispatcher ▸ (Dispatcher.Idle.refl s.dispatcher).told true) (timers ▸ hsame)
  | post delay work _ dispatcher timers _ _ =>
      refine .still (dispatcher ▸ .refl _) ?_
      rw [timers]
      exact bookings_schedule s.timers delay (.posted work)
  | withdraw id _ dispatcher timers _ _ =>
      refine .still (dispatcher ▸ .refl _) ?_
      rw [timers, bookings_withdraw hsound.agenda]
  | work limit e b work due task dispatcher timers _ _ =>
      refine .still (dispatcher ▸ .refl _) ?_
      rw [timers, bookings_of_popDue due, booking?_of_posted task]
      exact List.Perm.refl _
  | arrive drive dispatcher timers _ _ =>
      refine .still (dispatcher ▸ .refl _) ?_
      rw [timers]
      exact List.Perm.refl _

/-! ## Due before the next broadcast -/

/-- Every fan-out that waits is due less than an interval after the last broadcast. -/
structure Spaced (interval : Span) (s : OnAgenda ε κ) : Prop where
  paced : s.dispatcher.Paced interval
  due : ∀ b ∈ bookings s.timers, ∃ last, s.dispatcher.lastDispatch = some last ∧
    b.due.nanos < last.nanos + interval.nanos

theorem spaced_fresh (intervals : IntervalSource) {delays : DelaySource} (hdelays : delays.Fair) :
    Spaced (intervals.answer intervals.asked)
      (Session.fresh intervals delays : OnAgenda ε κ) where
  paced := ⟨rfl, hdelays, by simp [Session.fresh]⟩
  due := by simp [Session.fresh, bookings]

/-- The clock reads the time that has passed. -/
theorem elapsed_of_clock {a : Agenda (Errand κ)} {now : Span} (hclock : a.clock = some now) :
    a.elapsed = now := by
  unfold Agenda.clock at hclock
  split at hclock
  · exact Option.some.inj hclock
  · cases hclock

theorem not_overdue_of_booking {a : Agenda (Errand κ)} (hsound : a.Sound) {b : Booking}
    (hb : b ∈ bookings a) : a.elapsed ≤ b.due := by
  obtain ⟨e, he, hbooking⟩ := List.mem_filterMap.mp hb
  have hdue : e.key.deadline = b.due := by
    unfold booking? at hbooking
    split at hbooking
    · exact congrArg Booking.due (Option.some.inj hbooking)
    · cases hbooking
  exact hdue ▸ hsound.not_overdue e he

/-- When a broadcast can be accepted, no fan-out waits any more. -/
theorem Spaced.bookings_eq_nil (hspaced : Spaced interval s) (hpositive : .zero < interval)
    (hsound : s.Sound) {now : Span} (hclock : s.timers.clock = some now)
    (hnow : s.dispatcher.resolveInterval.2.1.debounced s.dispatcher.resolveInterval.1 now =
      false) : bookings s.timers = [] := by
  refine List.eq_nil_iff_forall_not_mem.mpr fun b hb => ?_
  obtain ⟨last, hlast, hdue⟩ := hspaced.due b hb
  have hwaits := not_overdue_of_booking hsound.agenda hb
  unfold Dispatcher.debounced at hnow
  rw [s.dispatcher.idle_resolveInterval.lastDispatch, hlast, hspaced.paced.resolved] at hnow
  have hpassed : interval ≤ now - last := by simpa [Span.not_lt] using hnow
  rw [elapsed_of_clock hclock, Span.le_iff] at hwaits
  rw [Span.le_iff, Span.nanos_sub] at hpassed
  rw [Span.lt_iff, Span.nanos_zero] at hpositive
  omega

/-- A fan-out that a broadcast books is due before the interval is over. -/
theorem due_lt_of_booked (hpaced : s.dispatcher.Paced interval) (hpositive : .zero < interval)
    {now : Span} {origins : List Origin}
    (hvisited : origins.Perm (s.dispatcher.records.map Prod.fst)) {b : Booking}
    (hb : b ∈ s.dispatcher.booked now origins) : b.due.nanos < now.nanos + interval.nanos := by
  have horigin : b.origin ∈ origins := by
    rw [← booked_origins s.dispatcher now origins]
    exact List.mem_map_of_mem hb
  obtain ⟨record, hrecord⟩ := Option.ne_none_iff_exists'.mp
    (Dispatcher.record?_ne_none.mpr (hvisited.mem_iff.mp horigin))
  obtain ⟨before, after, hsplit, _⟩ := List.lookup_eq_some_iff.mp hrecord
  have hfits := hpaced.fits (b.origin, record) (by simp [hsplit])
  have hdelay : record.delay < interval := hfits.lt hpositive
  rw [due_of_booked hb hrecord, Span.nanos_add]
  rw [Span.lt_iff] at hdelay
  omega

theorem Traffic.spaced (htraffic : Traffic s h s') (hspaced : Spaced interval s)
    (hpositive : .zero < interval) (hsound : s.Sound)
    (hpaced : s'.dispatcher.Paced interval) : Spaced interval s' := by
  refine ⟨hpaced, fun b hb => ?_⟩
  cases htraffic with
  | still idle bookings =>
      rw [idle.lastDispatch]
      exact hspaced.due b (bookings.mem_iff.mp hb)
  | fire c deed turn fires idle bookings =>
      rw [idle.lastDispatch]
      exact hspaced.due b (bookings ▸ List.mem_cons_of_mem c hb)
  | scatter now origins clock spaced visited scattered lastDispatch =>
      have hnone := hspaced.bookings_eq_nil hpositive hsound clock spaced
      have hnew := scattered.bookings.mem_iff.mp hb
      rw [hnone, List.append_nil] at hnew
      rw [elapsed_of_clock clock] at hnew
      exact ⟨now, lastDispatch, due_lt_of_booked hspaced.paced hpositive visited hnew⟩

/-- A ticket that is out waits, or it did not wait before either, or it has just come up. -/
theorem Traffic.ticket_cases (htraffic : Traffic s h s') {ticket : Ticket}
    (hissued : ticket < s'.dispatcher.nextTicket) :
    ticket ∈ (bookings s'.timers).map Booking.ticket ∨
      (ticket < s.dispatcher.nextTicket ∧ ticket ∉ (bookings s.timers).map Booking.ticket) ∨
      ∃ deed origin, h = .deed deed ∧ s.Fires deed ticket origin := by
  by_cases hwaits : ticket ∈ (bookings s.timers).map Booking.ticket
  · cases htraffic with
    | still idle bookings => exact .inl ((bookings.map _).mem_iff.mpr hwaits)
    | scatter now origins clock spaced visited scattered lastDispatch =>
        refine .inl ((scattered.bookings.map _).mem_iff.mpr ?_)
        rw [List.map_append]
        exact List.mem_append_right _ hwaits
    | fire b deed turn fires idle bookings =>
        rw [bookings, List.map_cons] at hwaits
        rcases List.mem_cons.mp hwaits with rfl | hwaits
        · exact .inr (.inr ⟨deed, b.origin, turn, fires⟩)
        · exact .inl hwaits
  · cases htraffic with
    | still idle bookings => exact .inr (.inl ⟨idle.nextTicket ▸ hissued, hwaits⟩)
    | scatter now origins clock spaced visited scattered lastDispatch =>
        by_cases hbefore : ticket < s.dispatcher.nextTicket
        · exact .inr (.inl ⟨hbefore, hwaits⟩)
        · -- it is one of those that this broadcast hands out
          refine .inl ((scattered.bookings.map _).mem_iff.mpr ?_)
          rw [List.map_append, booked_tickets]
          rw [scattered.nextTicket] at hissued
          exact List.mem_append_left _ (List.mem_range'_1.mpr ⟨Nat.not_lt.mp hbefore, hissued⟩)
    | fire b deed turn fires idle bookings =>
        exact .inr (.inl ⟨idle.nextTicket ▸ hissued, hwaits⟩)

end Steps

/-! ## Runs -/

namespace Session

variable {s : OnAgenda ε κ} {h : Happening ε κ}

/-- The fan-out of a ticket comes up in a run right after `before`. -/
def ComesUp (s : OnAgenda ε κ) (run before : List (Happening ε κ)) (ticket : Ticket) : Prop :=
  ∃ deed after origin, run = before ++ .deed deed :: after ∧
    (s.course before).Fires deed ticket origin

theorem ComesUp.append {run before : List (Happening ε κ)} {ticket : Ticket}
    (hup : s.ComesUp run before ticket) (more : List (Happening ε κ)) :
    s.ComesUp (run ++ more) before ticket := by
  obtain ⟨deed, after, origin, rfl, hfires⟩ := hup
  exact ⟨deed, after ++ more, origin, by simp, hfires⟩

theorem spaced_course {interval : Span} (hpositive : .zero < interval) (hsound : s.Sound)
    (hspaced : Spaced interval s) (run : List (Happening ε κ))
    (halive : (s.course run).standing ≠ .closed) : Spaced interval (s.course run) := by
  induction run using List.reverseRecOn with
  | nil => exact hspaced
  | append_singleton run h ih =>
      have hpaced := paced_course hspaced.paced (run ++ [h])
      rw [course_concat] at halive hpaced ⊢
      have htraffic := (effect_undergo _ h halive).traffic (hsound.course run)
      exact htraffic.spaced (ih (alive_of_undergo halive)) hpositive (hsound.course run) hpaced

/-- A ticket that is out and does not wait any more has come up. -/
theorem comesUp_of_not_waiting (hsound : s.Sound) {run : List (Happening ε κ)}
    (halive : (s.course run).standing ≠ .closed) {ticket : Ticket}
    (hnew : s.dispatcher.nextTicket ≤ ticket)
    (hissued : ticket < (s.course run).dispatcher.nextTicket)
    (hwaits : ticket ∉ (bookings (s.course run).timers).map Booking.ticket) :
    ∃ before, s.ComesUp run before ticket := by
  induction run using List.reverseRecOn with
  | nil => exact absurd hissued (Nat.not_lt.mpr hnew)
  | append_singleton run h ih =>
      rw [course_concat] at halive hissued hwaits
      have htraffic := (effect_undergo _ h halive).traffic (hsound.course run)
      rcases htraffic.ticket_cases hissued with
        hnow | ⟨hbefore, hgone⟩ | ⟨deed, origin, rfl, hfires⟩
      · exact absurd hnow hwaits
      · obtain ⟨before, hup⟩ := ih (alive_of_undergo halive) hbefore hgone
        exact ⟨before, hup.append [h]⟩
      · exact ⟨run, deed, [], origin, rfl, hfires⟩

/-- What waits has waited before, or has one of the next tickets. -/
theorem Sound.booking_of_undergo (hsound : s.Sound) (h : Happening ε κ) {b : Booking}
    (hb : b ∈ bookings (s.undergo h).session.timers) :
    b ∈ bookings s.timers ∨ s.dispatcher.nextTicket ≤ b.ticket := by
  cases h with
  | withdraw id =>
      left
      exact (bookings_withdraw hsound.agenda id) ▸ hb
  | deed deed =>
      obtain ⟨u, hu, hturn, hend⟩ := hsound.turn_act deed
      rcases hend with heq | ⟨_, heq⟩
      · exact hturn.booking_cases (heq ▸ hb)
      · exact hturn.booking_cases (hu.bookings_close.subset (heq ▸ hb))

/-- A ticket that is out and does not wait will not wait again. -/
theorem Sound.not_waiting_course (hsound : s.Sound) {ticket : Ticket}
    (hissued : ticket < s.dispatcher.nextTicket)
    (hnone : ∀ b ∈ bookings s.timers, b.ticket ≠ ticket) (run : List (Happening ε κ)) :
    ∀ b ∈ bookings (s.course run).timers, b.ticket ≠ ticket := by
  induction run generalizing s with
  | nil => exact hnone
  | cons h rest ih =>
      refine ih (hsound.undergo h) (Nat.lt_of_lt_of_le hissued (hsound.nextTicket_le_undergo h)) ?_
      intro b hb
      rcases hsound.booking_of_undergo h hb with hold | hnew
      · exact hnone b hold
      · exact fun heq => absurd (heq ▸ hissued) (Nat.not_lt.mpr hnew)

/-- A broadcast that is accepted finds the owner there and the interval over. -/
theorem accept_of_signal {route : Route}
    (haccepted : (s.act (.move route .broadcast) : Result ε κ).signal =
      .answered (.verdict .accepted)) :
    (s.act (.move route .broadcast) : Result ε κ).session.standing = .owned ∧
      ∃ now, s.timers.clock = some now ∧
        s.dispatcher.resolveInterval.2.1.debounced s.dispatcher.resolveInterval.1 now = false ∧
        ((s.act (.move route .broadcast) : Result ε κ).session.dispatcher,
            (s.act (.move route .broadcast) : Result ε κ).session.timers) =
          (route.visit (s.dispatcher.records.map Prod.fst)).foldl Dispatcher.scheduleFanOut
            (s.dispatcher.resolveInterval.2.1.accepting now, s.timers) := by
  have hrecords := s.dispatcher.resolveInterval_kept.records
  unfold act perform at haccepted ⊢
  dsimp only at haccepted ⊢
  split at haccepted
  next => cases haccepted
  next hheld =>
    rw [if_neg hheld]
    have howned : s.standing = .owned := by simpa [Move.needsDispatcher] using hheld
    unfold broadcast Dispatcher.broadcast Session.answer at haccepted ⊢
    dsimp only at haccepted ⊢
    rw [if_neg (by simp [howned])] at haccepted ⊢
    refine ⟨howned, ?_⟩
    cases hclock : Timeline.clock Agenda.Drive s.timers with
    | none =>
        rw [hclock] at haccepted
        cases haccepted
    | some now =>
        rw [hclock] at haccepted
        dsimp only at haccepted ⊢
        cases hspaced : s.dispatcher.resolveInterval.2.1.debounced s.dispatcher.resolveInterval.1
          now with
        | true =>
            rw [hspaced] at haccepted
            cases haccepted
        | false =>
            refine ⟨now, hclock, hspaced, ?_⟩
            rw [← hrecords]
            rfl

theorem Fires.waiting {deed : Deed ε κ} {ticket : Ticket} {origin : Origin} (hsound : s.Sound)
    (hfires : s.Fires deed ticket origin) : ∃ b ∈ bookings s.timers, b.ticket = ticket :=
  ⟨_, hsound.bookings_of_fires hfires ▸ List.mem_cons_self, rfl⟩

/-- A fan-out that does not wait comes up no more: if it comes up at all, it did so before. -/
theorem ComesUp.before_of_not_waiting (hsound : s.Sound) {past rest before : List (Happening ε κ)}
    {ticket : Ticket} (hissued : ticket < (s.course past).dispatcher.nextTicket)
    (hnone : bookings (s.course past).timers = []) (hup : s.ComesUp (past ++ rest) before ticket) :
    before.length < past.length := by
  obtain ⟨deed, after, origin, hsplit, hfires⟩ := hup
  by_contra hlong
  obtain ⟨more, rfl⟩ : past <+: before :=
    List.prefix_of_prefix_length_le (List.prefix_append past rest)
      (hsplit ▸ List.prefix_append before _) (Nat.not_lt.mp hlong)
  rw [course_append] at hfires
  have hpast := hsound.course past
  obtain ⟨b, hb, hticket⟩ := hfires.waiting (hpast.course more)
  exact hpast.not_waiting_course hissued (by simp [hnone]) more b hb hticket

/-- A fan-out cannot come up before its ticket is handed out. -/
theorem ComesUp.le_of_not_issued (hsound : s.Sound) {past rest before : List (Happening ε κ)}
    {ticket : Ticket} (hnew : (s.course past).dispatcher.nextTicket ≤ ticket)
    (hup : s.ComesUp (past ++ rest) before ticket) : past.length < before.length := by
  obtain ⟨deed, after, origin, hsplit, hfires⟩ := hup
  by_contra hshort
  obtain ⟨more, rfl⟩ : before <+: past :=
    List.prefix_of_prefix_length_le (hsplit ▸ List.prefix_append before _)
      (List.prefix_append past rest) (Nat.not_lt.mp hshort)
  rw [course_append] at hnew
  have hbefore := hsound.course before
  obtain ⟨b, hb, rfl⟩ := hfires.waiting hbefore
  have hissued := hbefore.ticket_lt b.ticket
    (List.mem_append_left _ (List.mem_map_of_mem hb))
  exact absurd (Nat.le_trans (hbefore.nextTicket_le_course more) hnew) (Nat.not_le.mpr hissued)

/-- Broadcasts never overlap if the interval is positive and delays are drawn within it. When
one is accepted, no fan-out of an earlier one is in flight or waits on the agenda; right after
it, those in flight are one for each record, under the next tickets. Every ticket that was
handed out before has come up by then, and whatever follows, a fan-out of an earlier broadcast
comes up before this broadcast and one of this or a later broadcast after it. -/
theorem broadcasts_never_overlap (intervals : IntervalSource) (delays : DelaySource)
    (hpositive : .zero < intervals.answer intervals.asked) (hdelays : delays.Fair)
    (past later : List (Happening ε κ)) (route : Route)
    (haccepted : (((fresh intervals delays : OnAgenda ε κ).course past).act
      (.move route .broadcast)).signal = .answered (.verdict .accepted)) :
    let start : OnAgenda ε κ := fresh intervals delays
    let s := start.course past
    let u := (s.act (.move route .broadcast)).session
    let run := past ++ .deed (.move route .broadcast) :: later
    (s.dispatcher.inFlight = [] ∧ bookings s.timers = []) ∧
    u.dispatcher.pendingFanouts = u.dispatcher.originCount ∧
    ((bookings u.timers).map Booking.ticket).Perm
      (List.range' s.dispatcher.nextTicket u.dispatcher.originCount) ∧
    (∀ ticket < s.dispatcher.nextTicket, ∃ before, start.ComesUp past before ticket) ∧
    ∀ ticket ticket' before before',
      ticket < s.dispatcher.nextTicket → s.dispatcher.nextTicket ≤ ticket' →
      start.ComesUp run before ticket → start.ComesUp run before' ticket' →
      before.length < past.length ∧ past.length < before'.length := by
  intro start s u run
  obtain ⟨hheld, now, hclock, hnow, hstate⟩ := accept_of_signal haccepted
  have hfresh : start.Sound := sound_fresh intervals delays
  have hsound : s.Sound := hfresh.course past
  have halive : s.standing ≠ .closed := fun hclosed =>
    absurd (hheld.symm.trans (closed_act hclosed _)) nofun
  have hspaced : Spaced (intervals.answer intervals.asked) s :=
    spaced_course hpositive hfresh (spaced_fresh intervals hdelays) past halive
  have hnone := hspaced.bookings_eq_nil hpositive hsound hclock hnow
  have hmatched : Matched s.dispatcher s.timers :=
    (balanced_course intervals delays past halive).matched
  have hinFlight : s.dispatcher.inFlight = [] := by
    have hslots : slots s.timers = [] := by
      have htickets := slots_tickets s.timers
      rw [hnone] at htickets
      exact List.map_eq_nil_iff.mp htickets
    exact List.Perm.eq_nil (hslots ▸ hmatched)
  obtain ⟨-, hpending, -⟩ := hmatched.accept hstate
  obtain ⟨-, origins, haccept⟩ := accepted_of_signal haccepted
  have horigins : u.dispatcher.originCount = s.dispatcher.originCount :=
    congrArg List.length haccept.scattered.records
  refine ⟨⟨hinFlight, hnone⟩, ?_, ?_, ?_, ?_⟩
  · rw [horigins]
    refine hpending.trans ?_
    unfold Dispatcher.pendingFanouts
    rw [hinFlight]
    exact Nat.zero_add _
  · refine (haccept.scattered.bookings.map _).trans ?_
    rw [hnone, List.append_nil, booked_tickets, haccept.visited.length_eq, List.length_map,
      horigins]
    exact List.Perm.refl _
  · intro ticket hissued
    have hgone : ticket ∉ (bookings s.timers).map Booking.ticket := by
      rw [hnone]
      exact List.not_mem_nil
    exact comesUp_of_not_waiting hfresh halive (Nat.zero_le _) hissued hgone
  · intro ticket ticket' before before' hissued hnew hup hup'
    exact ⟨hup.before_of_not_waiting hfresh hissued hnone, hup'.le_of_not_issued hfresh hnew⟩

/-- A broadcast to one listener, and the minute in which it is told. -/
def minute : List (Happening Unit Unit) :=
  [.add default (), .resume, .broadcast, .travel (.advance (.ofSecs 60)), .proceed, .resume,
    .proceed].map fun m => .deed (.move .straight m)

/-- A second broadcast after this minute finds the first one over. -/
theorem broadcasts_never_overlap_minute :
    Span.zero < .ofSecs 60 ∧ (DelaySource.scripted [.ofSecs 10]).Fair ∧
      ((tenSeconds.course minute).act (.move .straight .broadcast)).signal =
        .answered (.verdict .accepted) ∧
      (tenSeconds.course minute).dispatcher.inFlight = [] ∧
      ∃ before, tenSeconds.ComesUp minute before 0 := by
  have haccepted : ((tenSeconds.course minute).act (.move .straight .broadcast)).signal =
      .answered (.verdict .accepted) := by rfl
  obtain ⟨⟨hinFlight, -⟩, -, -, hup, -⟩ := broadcasts_never_overlap ⟨fun _ => .ofSecs 60, 0⟩
    (.scripted [.ofSecs 10]) (by decide) trivial minute [] .straight haccepted
  exact ⟨by decide, trivial, haccepted, hinFlight, hup 0 (by decide +kernel)⟩

end Session

end Cadence.Broadcast
