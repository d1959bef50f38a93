import Cadence.Proofs.Broadcast.Effects

/-! # Conservation of fan-outs

The tickets in flight are the fan-outs that wait on the agenda, each under its
number. A record that is there at an accepted broadcast leads to one fan-out, and
this is in flight, or given up, or begun. All other counters agree with the calls
that were made.
-/

namespace Cadence.Broadcast

variable {ε κ : Type}

/-! ## Tickets and their tasks -/

/-- The ticket of an entry and the number under which it waits, if it is a fan-out. -/
def slot? (e : Entry (Errand κ)) : Option (Ticket × TaskId) :=
  (booking? e).map fun b => (b.ticket, e.id)

theorem slot?_of_fanOut {e : Entry (Errand κ)} {origin : Origin} {ticket : Ticket}
    (h : e.task = .fanOut origin ticket) : slot? e = some (ticket, e.id) := by
  simp [slot?, booking?_of_fanOut h]

theorem slot?_of_posted {e : Entry (Errand κ)} {work : κ} (h : e.task = .posted work) :
    slot? e = none := by
  simp [slot?, booking?_of_posted h]

theorem slot?_eq_some_iff {e : Entry (Errand κ)} {ticket : Ticket} {id : TaskId} :
    slot? e = some (ticket, id) ↔ e.id = id ∧ ∃ origin, e.task = .fanOut origin ticket := by
  cases htask : e.task with
  | fanOut origin found => simp [slot?_of_fanOut htask, and_comm]
  | posted work => simp [slot?_of_posted htask]

/-- The tickets of the fan-outs that an agenda holds, with their numbers. -/
def slots (a : Agenda (Errand κ)) : List (Ticket × TaskId) := a.queue.filterMap slot?

theorem mem_slots {a : Agenda (Errand κ)} {ticket : Ticket} {id : TaskId} :
    (ticket, id) ∈ slots a ↔
      ∃ e ∈ a.queue, e.id = id ∧ ∃ origin, e.task = .fanOut origin ticket := by
  simp [slots, List.mem_filterMap, slot?_eq_some_iff]

theorem slots_schedule (a : Agenda (Errand κ)) (delay : Span) (task : Errand κ) :
    (slots (a.schedule delay task).2).Perm ((slot? (a.entryFor delay task)).toList ++ slots a) :=
  a.filterMap_schedule slot? delay task

theorem slots_of_popDue {a b : Agenda (Errand κ)} {limit : Span} {e : Entry (Errand κ)}
    (hpop : a.popDue limit = some (e, b)) :
    slots a = (slot? e).toList ++ slots (b.started e) :=
  Agenda.filterMap_of_popDue (b := b) slot? hpop

theorem slots_withdraw {a : Agenda (Errand κ)} (h : a.Sound) (id : TaskId) :
    slots (withdraw a id) = slots a :=
  withdraw_filterMap h fun e _ _ he => by simp [slot?, he]

theorem slots_tickets (a : Agenda (Errand κ)) :
    (slots a).map Prod.fst = (bookings a).map Booking.ticket := by
  unfold slots bookings slot?
  rw [List.map_filterMap, List.map_filterMap]
  simp [Function.comp_def]

/-- No number stands for two fan-outs. -/
theorem slots_ids_nodup {a : Agenda (Errand κ)} (h : a.Sound) : ((slots a).map Prod.snd).Nodup := by
  unfold slots
  refine List.pairwise_map.mpr (List.pairwise_filterMap.mpr ?_)
  refine (List.pairwise_map.mp h.ids_nodup).imp ?_
  intro e f hne p hp q hq
  rw [← (slot?_eq_some_iff.mp hp).1, ← (slot?_eq_some_iff.mp hq).1]
  exact hne

/-! ## The dispatcher's books -/

/-- The tickets in flight are the fan-outs that wait. -/
def Matched (d : Dispatcher ε) (a : Agenda (Errand κ)) : Prop := d.inFlight.Perm (slots a)

namespace Dispatcher

variable {d d' : Dispatcher ε}

/-- The fan-outs that a dispatcher accounts for: in flight, given up, or begun. -/
def accounted (d : Dispatcher ε) : Nat :=
  d.pendingFanouts + d.stats.droppedFanouts + d.stats.fanouts

/-- The broadcasts that a dispatcher came to a verdict on. -/
def judged (d : Dispatcher ε) : Nat := d.stats.dispatches + d.stats.suppressed

/-- What the books of a dispatcher gain. -/
structure Gains (d d' : Dispatcher ε) (c : Tally) : Prop where
  fanouts : d'.accounted = d.accounted + (c.summoned + c.requested)
  verdicts : d'.judged = d.judged + c.judged
  notifications : d'.stats.notifications = d.stats.notifications + c.notified

/-- The tickets in flight and the counters stay as they are. -/
structure Settled (d d' : Dispatcher ε) : Prop where
  inFlight : d'.inFlight = d.inFlight
  stats : d'.stats = d.stats

theorem Settled.refl (d : Dispatcher ε) : d.Settled d := ⟨rfl, rfl⟩

theorem Settled.gains (h : d.Settled d') : d.Gains d' {} := by
  constructor <;> simp [accounted, judged, pendingFanouts, h.inFlight, h.stats]

theorem Settled.matched (h : d.Settled d') {a : Agenda (Errand κ)} (hm : Matched d a) :
    Matched d' a := by
  unfold Matched
  rw [h.inFlight]
  exact hm

theorem resolveInterval_settled (d : Dispatcher ε) : d.Settled d.resolveInterval.2.1 := by
  unfold resolveInterval
  split <;> exact ⟨rfl, rfl⟩

theorem ensureRecord_settled (d : Dispatcher ε) (origin : Origin) :
    d.Settled (d.ensureRecord origin).1 := by
  unfold ensureRecord
  split
  next => exact ⟨rfl, rfl⟩
  next => exact ⟨d.resolveInterval_settled.inFlight, d.resolveInterval_settled.stats⟩

theorem add_settled (d : Dispatcher ε) (origin : Origin) (endpoint : ε) :
    d.Settled (d.add origin endpoint).2.1 :=
  have h := ensureRecord_settled { d with nextEndpoint := d.nextEndpoint + 1 } origin
  ⟨h.inFlight, h.stats⟩

theorem remove_settled (d : Dispatcher ε) (r : Registration) : d.Settled (d.remove r).1 := by
  unfold remove
  split
  next => exact ⟨rfl, rfl⟩
  next =>
    dsimp only
    split <;> exact ⟨rfl, rfl⟩

theorem told_inFlight (d : Dispatcher ε) (notified : Bool) :
    (d.told notified).inFlight = d.inFlight := by
  cases notified <;> rfl

/-- A notification is counted as one and nothing else. -/
theorem Gains.told {c : Tally} (h : d.Gains d' c) (notified : Bool) :
    d.Gains (d'.told notified) { c with notified := c.notified + if notified then 1 else 0 } := by
  obtain ⟨hfanouts, hverdicts, hnotifications⟩ := h
  cases notified with
  | false => exact ⟨hfanouts, hverdicts, hnotifications⟩
  | true => exact ⟨hfanouts, hverdicts, congrArg (· + 1) hnotifications⟩

theorem Settled.suppressing (h : d.Settled d') : d.Gains d'.suppressing { judged := 1 } :=
  have hgains := h.gains
  ⟨hgains.fanouts, congrArg (· + 1) hgains.verdicts, hgains.notifications⟩

theorem startFanOut_inFlight (d : Dispatcher ε) (origin : Origin) (ticket : Ticket) :
    (d.startFanOut origin (some ticket)).2.1.inFlight =
      d.inFlight.eraseP (·.1 = ticket) := by
  unfold startFanOut
  dsimp only
  split <;> rfl

/-- A fan-out that is called for is no longer told apart from others once it has begun. -/
theorem startFanOut_request (d : Dispatcher ε) (origin : Origin) :
    (d.startFanOut origin none).2.1.inFlight = d.inFlight ∧
      d.Gains (d.startFanOut origin none).2.1
        { requested := if (d.record? origin).isSome then 1 else 0 } := by
  unfold startFanOut
  cases hrecord : d.record? origin with
  | none => simpa [hrecord] using (Settled.refl d).gains
  | some record =>
      simp only [hrecord]
      exact ⟨trivial, by simp [accounted, pendingFanouts, Nat.add_assoc], by simp [judged], by simp⟩

/-- A fan-out that comes up is dropped or begun, and no longer in flight. -/
theorem startFanOut_gains (origin : Origin) {ticket : Ticket}
    (hlength : d.inFlight.length = (d.inFlight.eraseP (·.1 = ticket)).length + 1) :
    d.Gains (d.startFanOut origin (some ticket)).2.1 {} := by
  have hinFlight := d.startFanOut_inFlight origin ticket
  have hstats := d.startFanOut_stats origin ticket
  constructor
  · unfold accounted pendingFanouts
    rw [hinFlight, hstats, hlength]
    split <;> dsimp only <;> omega
  · unfold judged
    rw [hstats]
    split <;> rfl
  · rw [hstats]
    split <;> rfl

end Dispatcher

/-- A fan-out that is scheduled is in flight under the number that it waits under. -/
theorem Matched.foldl_scheduleFanOut {d : Dispatcher ε} {a : Agenda (Errand κ)}
    (h : Matched d a) (origins : List Origin) (hrecords : ∀ o ∈ origins, d.record? o ≠ none) :
    Matched (origins.foldl Dispatcher.scheduleFanOut (d, a)).1
        (origins.foldl Dispatcher.scheduleFanOut (d, a)).2 ∧
      (origins.foldl Dispatcher.scheduleFanOut (d, a)).1.pendingFanouts =
        d.pendingFanouts + origins.length ∧
      (origins.foldl Dispatcher.scheduleFanOut (d, a)).1.stats = d.stats := by
  induction origins generalizing d a with
  | nil => exact ⟨h, rfl, rfl⟩
  | cons o rest ih =>
      obtain ⟨record, hrecord⟩ := Option.ne_none_iff_exists'.mp (hrecords o List.mem_cons_self)
      rw [List.foldl_cons, scheduleFanOut_of_record hrecord]
      have hnext : Matched
          { d with
            nextTicket := d.nextTicket + 1
            inFlight := d.inFlight ++ [(d.nextTicket, a.nextId)] }
          (a.schedule record.delay (.fanOut o d.nextTicket)).2 :=
        (List.perm_append_singleton _ _).trans
          ((h.cons _).trans (slots_schedule a record.delay (.fanOut o d.nextTicket)).symm)
      obtain ⟨hmatched, hpending, hstats⟩ :=
        ih hnext fun x hx => hrecords x (List.mem_cons_of_mem o hx)
      refine ⟨hmatched, hpending.trans ?_, hstats⟩
      unfold Dispatcher.pendingFanouts
      rw [List.length_append, List.length_cons, List.length_cons, List.length_nil]
      omega

/-- An accepted broadcast puts one fan-out in flight for each record. -/
theorem Matched.accept {d d' : Dispatcher ε} {a a' : Agenda (Errand κ)} (h : Matched d a)
    {route : Route} {now : Span}
    (hstate : (d', a') = (route.visit (d.records.map Prod.fst)).foldl Dispatcher.scheduleFanOut
      (d.resolveInterval.2.1.accepting now, a)) :
    Matched d' a' ∧ d'.pendingFanouts = d.pendingFanouts + d.originCount ∧
      d.Gains d' { summoned := d.originCount, judged := 1 } := by
  obtain ⟨hinFlight, hstats⟩ := d.resolveInterval_settled
  have hbefore : Matched (d.resolveInterval.2.1.accepting now) a :=
    d.resolveInterval_settled.matched h
  have hvisit := route.perm (d.records.map Prod.fst)
  have hrecords : ∀ o ∈ route.visit (d.records.map Prod.fst),
      (d.resolveInterval.2.1.accepting now).record? o ≠ none := fun o ho =>
    Dispatcher.record?_ne_none.mpr (d.resolveInterval_kept.records ▸ hvisit.mem_iff.mp ho)
  obtain ⟨hmatched, hpending, hkept⟩ := hbefore.foldl_scheduleFanOut _ hrecords
  rw [← hstate] at hmatched hpending hkept
  rw [hvisit.length_eq, List.length_map] at hpending
  have hstats' : d'.stats = { d.stats with dispatches := d.stats.dispatches + 1 } := by
    rw [hkept]
    unfold Dispatcher.accepting
    rw [hstats]
  have hpending' : d'.pendingFanouts = d.pendingFanouts + d.originCount := by
    refine hpending.trans (congrArg (· + d.originCount) ?_)
    exact congrArg List.length hinFlight
  refine ⟨hmatched, hpending', ?_, ?_, ?_⟩
  · unfold Dispatcher.accounted
    rw [hpending', hstats']
    dsimp only
    omega
  · unfold Dispatcher.judged
    rw [hstats']
    dsimp only
    omega
  · rw [hstats']
    rfl

/-- The ticket of a fan-out that comes up is cleared, and no other. -/
theorem Matched.eraseP {d : Dispatcher ε} {a b : Agenda (Errand κ)} (h : Matched d a)
    (hnodup : ((bookings a).map Booking.ticket).Nodup) {limit : Span} {e : Entry (Errand κ)}
    (hpop : a.popDue limit = some (e, b)) {origin : Origin} {ticket : Ticket}
    (htask : e.task = .fanOut origin ticket) :
    (d.inFlight.eraseP (·.1 = ticket)).Perm (slots (b.started e)) ∧
      d.inFlight.length = (d.inFlight.eraseP (·.1 = ticket)).length + 1 := by
  have hslots : slots a = (ticket, e.id) :: slots (b.started e) := by
    rw [slots_of_popDue hpop, slot?_of_fanOut htask]
    rfl
  have hperm : d.inFlight.Perm ((ticket, e.id) :: slots (b.started e)) := h.trans (.of_eq hslots)
  rw [← slots_tickets, hslots, List.map_cons] at hnodup
  have htickets : (d.inFlight.map Prod.fst).Nodup := (hperm.map Prod.fst).nodup_iff.mpr hnodup
  have herased : (d.inFlight.eraseP (·.1 = ticket)).Perm (slots (b.started e)) := by
    rw [Labelled.eraseP_eq_filter htickets]
    apply (hperm.filter _).trans
    rw [List.filter_cons_of_neg (by simp)]
    -- no other fan-out has its ticket
    refine List.Perm.of_eq (List.filter_eq_self.mpr fun p hp => ?_)
    have hne : p.1 ≠ ticket := fun heq =>
      (List.nodup_cons.mp hnodup).1 (List.mem_map.mpr ⟨p, hp, heq⟩)
    simpa using hne
  exact ⟨herased, by rw [hperm.length_eq, herased.length_eq, List.length_cons]⟩

/-! ## The balance -/

/-- What the dispatcher accounts for agrees with what was counted. -/
structure Balanced (s : OnAgenda ε κ) (c : Tally) : Prop where
  matched : Matched s.dispatcher s.timers
  fanouts : s.dispatcher.accounted = c.summoned + c.requested
  verdicts : s.dispatcher.judged = c.judged
  notifications : s.dispatcher.stats.notifications = c.notified

theorem balanced_fresh (intervals : IntervalSource) (delays : DelaySource) :
    Balanced (Session.fresh intervals delays : OnAgenda ε κ) {} :=
  ⟨List.Perm.refl _, rfl, rfl, rfl⟩

section Steps

variable {s s' : OnAgenda ε κ} {h : Happening ε κ} {c share : Tally} {call : Option (Call ε κ)}

theorem Balanced.gain (hb : Balanced s c) (hmatched : Matched s'.dispatcher s'.timers)
    (hgains : s.dispatcher.Gains s'.dispatcher share) : Balanced s' (c + share) where
  matched := hmatched
  fanouts := by
    rw [hgains.fanouts, hb.fanouts, Tally.summoned_add, Tally.requested_add]
    omega
  verdicts := by rw [hgains.verdicts, hb.verdicts, Tally.judged_add]
  notifications := by rw [hgains.notifications, hb.notifications, Tally.notified_add]

/-- Neither the books nor what waits of the dispatcher's changes. -/
theorem Balanced.of_settled (hb : Balanced s c) (hsettled : s.dispatcher.Settled s'.dispatcher)
    (htimers : (slots s'.timers).Perm (slots s.timers)) (hshare : share = {}) :
    Balanced s' (c + share) :=
  hb.gain ((hsettled.matched hb.matched).trans htimers.symm) (hshare ▸ hsettled.gains)

/-- Whatever happens, the books stay balanced. -/
theorem Balanced.effect (hb : Balanced s c) (hsound : s.Sound)
    (heffect : Effect s h share call s') :
    Balanced s' (c + share) := by
  cases heffect with
  | rest dispatcher timers counted _ =>
      exact hb.of_settled (dispatcher ▸ .refl _) (by rw [timers]) counted
  | resolve dispatcher timers counted _ =>
      exact hb.of_settled (dispatcher ▸ s.dispatcher.resolveInterval_settled) (by rw [timers])
        counted
  | enroll _ origin endpoint _ _ dispatcher timers counted _ =>
      exact hb.of_settled (dispatcher ▸ s.dispatcher.add_settled origin endpoint) (by rw [timers])
        counted
  | strike _ r _ dispatcher timers counted _ =>
      exact hb.of_settled (dispatcher ▸ s.dispatcher.remove_settled r) (by rw [timers]) counted
  | suppress dispatcher timers counted _ =>
      have hsettled := s.dispatcher.resolveInterval_settled
      refine hb.gain ?_ ?_
      · rw [dispatcher, timers]
        exact hsettled.matched hb.matched
      · rw [dispatcher, counted]
        exact hsettled.suppressing
  | accept route now clock spaced state counted _ =>
      obtain ⟨hmatched, -, hgains⟩ := hb.matched.accept state
      exact hb.gain hmatched (counted ▸ hgains)
  | call origin told dispatcher timers counted _ =>
      obtain ⟨hinFlight, hgains⟩ := s.dispatcher.startFanOut_request origin
      refine hb.gain ?_ ?_
      · unfold Matched
        rw [dispatcher, timers, Dispatcher.told_inFlight, hinFlight]
        exact hb.matched
      · rw [dispatcher, counted]
        simpa using hgains.told told.isSome
  | fire route drive rest e b origin ticket told turn before due task dispatcher timers counted _ =>
      have hnodup := (List.nodup_append.mp hsound.tickets_nodup).1
      obtain ⟨hmatched, hlength⟩ := hb.matched.eraseP hnodup due task
      refine hb.gain ?_ ?_
      · unfold Matched
        rw [dispatcher, timers, Dispatcher.told_inFlight, Dispatcher.startFanOut_inFlight]
        exact hmatched
      · rw [dispatcher, counted]
        simpa using (Dispatcher.startFanOut_gains origin hlength).told told.isSome
  | next _ dispatcher timers counted _ =>
      refine hb.gain ?_ ?_
      · rw [dispatcher, timers]
        exact hb.matched
      · rw [dispatcher, counted]
        exact (Dispatcher.Settled.refl s.dispatcher).gains.told true
  | post delay work _ dispatcher timers counted _ =>
      refine hb.of_settled (dispatcher ▸ .refl _) ?_ counted
      rw [timers]
      exact slots_schedule s.timers delay (.posted work)
  | withdraw id _ dispatcher timers counted _ =>
      refine hb.of_settled (dispatcher ▸ .refl _) ?_ counted
      rw [timers, slots_withdraw hsound.agenda]
  | work limit e b work due task dispatcher timers counted _ =>
      refine hb.of_settled (dispatcher ▸ .refl _) ?_ counted
      rw [timers, slots_of_popDue due, slot?_of_posted task]
      exact List.Perm.refl _
  | arrive drive dispatcher timers counted _ =>
      refine hb.of_settled (dispatcher ▸ .refl _) ?_ counted
      rw [timers]
      exact List.Perm.refl _

end Steps

namespace Session

theorem balanced_course (intervals : IntervalSource) (delays : DelaySource)
    (run : List (Happening ε κ))
    (halive : ((fresh intervals delays : OnAgenda ε κ).course run).standing ≠ .closed) :
    Balanced ((fresh intervals delays : OnAgenda ε κ).course run)
      ((fresh intervals delays : OnAgenda ε κ).tally run) := by
  induction run using List.reverseRecOn with
  | nil => exact balanced_fresh intervals delays
  | append_singleton run h ih =>
      rw [course_concat] at halive ⊢
      rw [tally_concat]
      have hsound := (sound_fresh (ε := ε) (κ := κ) intervals delays).course run
      exact (ih (alive_of_undergo halive)).effect hsound (effect_undergo _ h halive)

/-- Fan-outs are conserved as long as the dispatcher is there. The tickets in flight are the
fan-outs that wait on the agenda, one for one and each under its number. Every record that
was there at an accepted broadcast, and every fan-out that was called for and found a
record, is accounted for once: in flight, given up, or begun. The other counters count the
verdicts and the notifications. -/
theorem fanouts_conserved (intervals : IntervalSource) (delays : DelaySource)
    (run : List (Happening ε κ))
    (halive : ((fresh intervals delays : OnAgenda ε κ).course run).standing ≠ .closed) :
    let start : OnAgenda ε κ := fresh intervals delays
    let s := start.course run
    let counted := start.tally run
    ((s.timers.queue.map Entry.id).Nodup ∧
      (s.dispatcher.inFlight.map Prod.fst).Nodup ∧ (s.dispatcher.inFlight.map Prod.snd).Nodup ∧
      ∀ ticket id, (ticket, id) ∈ s.dispatcher.inFlight ↔
        ∃ e ∈ s.timers.queue, e.id = id ∧ ∃ origin, e.task = .fanOut origin ticket) ∧
    counted.summoned + counted.requested = s.dispatcher.pendingFanouts +
      s.dispatcher.stats.droppedFanouts + s.dispatcher.stats.fanouts ∧
    s.dispatcher.stats.dispatches + s.dispatcher.stats.suppressed = counted.judged ∧
    s.dispatcher.stats.notifications = counted.notified := by
  intro start s counted
  have hsound : s.Sound := (sound_fresh intervals delays).course run
  have hb : Balanced s counted := balanced_course intervals delays run halive
  have htickets : ((slots s.timers).map Prod.fst).Nodup := by
    rw [slots_tickets]
    exact (List.nodup_append.mp hsound.tickets_nodup).1
  refine ⟨⟨hsound.agenda.ids_nodup, ?_, ?_, fun ticket id => ?_⟩, hb.fanouts.symm, hb.verdicts,
    hb.notifications⟩
  · exact (hb.matched.map Prod.fst).nodup_iff.mpr htickets
  · exact (hb.matched.map Prod.snd).nodup_iff.mpr (slots_ids_nodup hsound.agenda)
  · exact hb.matched.mem_iff.trans mem_slots

/-- A dispatcher with an interval of a minute whose first record has a delay of ten seconds. -/
def tenSeconds : OnAgenda Unit Unit := fresh ⟨fun _ => .ofSecs 60, 0⟩ (.scripted [.ofSecs 10])

/-- A listener is told by a broadcast, and calls for another fan-out while it is told. -/
def echoing : List (Happening Unit Unit) :=
  [.add default (), .resume, .broadcast, .travel (.advance (.ofSecs 10)), .proceed,
    .dispatch default].map fun m => .deed (.move .straight m)

/-- Both fan-outs have begun and both notifications are counted. -/
theorem fanouts_conserved_echoing :
    (tenSeconds.course echoing).standing ≠ .closed ∧
      tenSeconds.tally echoing = ⟨1, 1, 1, 2⟩ ∧
      (tenSeconds.tally echoing).summoned + (tenSeconds.tally echoing).requested =
        (tenSeconds.course echoing).dispatcher.pendingFanouts +
        (tenSeconds.course echoing).dispatcher.stats.droppedFanouts +
        (tenSeconds.course echoing).dispatcher.stats.fanouts := by
  have halive : (tenSeconds.course echoing).standing ≠ .closed := by decide +kernel
  have htally : tenSeconds.tally echoing = ⟨1, 1, 1, 2⟩ := by decide +kernel
  exact ⟨halive, htally, (fanouts_conserved _ _ echoing halive).2.1⟩

end Session

end Cadence.Broadcast
