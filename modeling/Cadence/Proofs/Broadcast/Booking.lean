import Cadence.Broadcast.Dispatcher
import Cadence.Proofs.Agenda.Queue
import Cadence.Proofs.Broadcast.Registry
import Mathlib.Data.List.Induction

/-! # Booking

A broadcast that is accepted books one fan-out for each record, under consecutive
tickets and each at the end of its record's delay. It leaves the registry and the
time as they are, and a broadcast that is not accepted books nothing. Whoever puts
other work off may take it back, and no booking goes with it.
-/

namespace Cadence.Broadcast

/-- A fan-out that waits on the agenda. -/
structure Booking where
  ticket : Ticket
  origin : Origin
  due : Span
deriving DecidableEq

/-- The fan-out that an entry of the agenda stands for, if it stands for one. -/
def booking? {κ : Type} (e : Entry (Errand κ)) : Option Booking :=
  match e.task with
  | .fanOut origin ticket => some ⟨ticket, origin, e.key.deadline⟩
  | .posted _ => none

theorem booking?_of_fanOut {κ : Type} {e : Entry (Errand κ)} {origin : Origin} {ticket : Ticket}
    (h : e.task = .fanOut origin ticket) :
    booking? e = some ⟨ticket, origin, e.key.deadline⟩ := by
  simp [booking?, h]

theorem booking?_of_posted {κ : Type} {e : Entry (Errand κ)} {work : κ}
    (h : e.task = .posted work) : booking? e = none := by
  simp [booking?, h]

/-- The fan-outs that an agenda holds. -/
def bookings {κ : Type} (a : Agenda (Errand κ)) : List Booking := a.queue.filterMap booking?

variable {ε κ : Type}

theorem bookings_schedule (a : Agenda (Errand κ)) (delay : Span) (task : Errand κ) :
    (bookings (a.schedule delay task).2).Perm
      ((booking? (a.entryFor delay task)).toList ++ bookings a) :=
  a.filterMap_schedule booking? delay task

theorem bookings_of_popDue {a b : Agenda (Errand κ)} {limit : Span} {e : Entry (Errand κ)}
    (hpop : a.popDue limit = some (e, b)) :
    bookings a = (booking? e).toList ++ bookings (b.started e) :=
  Agenda.filterMap_of_popDue (b := b) booking? hpop

/-- The fan-outs that a broadcast books for some origins. -/
def Dispatcher.booked (d : Dispatcher ε) (now : Span) (origins : List Origin) : List Booking :=
  origins.mapIdx fun i origin =>
    ⟨d.nextTicket + i, origin, now + ((d.randomDelay origin).getD .zero)⟩

theorem booked_tickets (d : Dispatcher ε) (now : Span) (origins : List Origin) :
    (d.booked now origins).map Booking.ticket = List.range' d.nextTicket origins.length := by
  apply List.ext_getElem (by simp [Dispatcher.booked])
  intro i _ _
  simp [Dispatcher.booked]

theorem booked_origins (d : Dispatcher ε) (now : Span) (origins : List Origin) :
    (d.booked now origins).map Booking.origin = origins := by
  apply List.ext_getElem (by simp [Dispatcher.booked])
  intro i _ _
  simp [Dispatcher.booked]

theorem due_of_booked {d : Dispatcher ε} {now : Span} {origins : List Origin} {b : Booking}
    (hb : b ∈ d.booked now origins) {record : Record ε}
    (hrecord : d.record? b.origin = some record) : b.due = now + record.delay := by
  obtain ⟨i, hi, rfl⟩ := List.mem_mapIdx.mp hb
  show now + ((d.randomDelay origins[i]).getD .zero) = _
  unfold Dispatcher.randomDelay
  rw [show d.record? origins[i] = some record from hrecord]
  rfl

/-- The bookings of a broadcast are told apart by their tickets, and by their origins. -/
theorem booked_inj {d : Dispatcher ε} {now : Span} {origins : List Origin} {b c : Booking}
    (hb : b ∈ d.booked now origins) (hc : c ∈ d.booked now origins)
    (hsame : b.ticket = c.ticket ∨ (origins.Nodup ∧ b.origin = c.origin)) : b = c := by
  rcases hsame with hticket | ⟨hnodup, horigin⟩
  · have htickets : ((d.booked now origins).map Booking.ticket).Nodup := by
      rw [booked_tickets]
      exact List.nodup_range'
    exact List.inj_on_of_nodup_map htickets hb hc hticket
  · have horigins : ((d.booked now origins).map Booking.origin).Nodup := by
      rwa [booked_origins]
    exact List.inj_on_of_nodup_map horigins hb hc horigin

/-- What scheduling a fan-out for each of some origins leads to. -/
structure Scattered (d : Dispatcher ε) (a : Agenda (Errand κ)) (origins : List Origin)
    (d' : Dispatcher ε) (a' : Agenda (Errand κ)) : Prop where
  records : d'.records = d.records
  nextEndpoint : d'.nextEndpoint = d.nextEndpoint
  nextTicket : d'.nextTicket = d.nextTicket + origins.length
  elapsed : a'.elapsed = a.elapsed
  sound : a.Sound → a'.Sound
  bookings : (bookings a').Perm (d.booked a.elapsed origins ++ bookings a)

theorem scheduleFanOut_of_record {d : Dispatcher ε} {origin : Origin} {record : Record ε}
    (h : d.record? origin = some record) (a : Agenda (Errand κ)) :
    Dispatcher.scheduleFanOut (d, a) origin =
      ({ d with
          nextTicket := d.nextTicket + 1
          inFlight := d.inFlight ++ [(d.nextTicket, a.nextId)] },
        (a.schedule record.delay (.fanOut origin d.nextTicket)).2) := by
  unfold Dispatcher.scheduleFanOut
  dsimp only
  rw [h]
  rfl

theorem scattered_foldl (d : Dispatcher ε) (a : Agenda (Errand κ)) (origins : List Origin)
    (hrecords : ∀ o ∈ origins, d.record? o ≠ none) :
    Scattered d a origins (origins.foldl Dispatcher.scheduleFanOut (d, a)).1
      (origins.foldl Dispatcher.scheduleFanOut (d, a)).2 := by
  -- from the end, so that the tickets of the first origins stay as they are
  induction origins using List.reverseRecOn with
  | nil => exact ⟨rfl, rfl, rfl, rfl, id, List.Perm.refl _⟩
  | append_singleton origins o ih =>
      have hbefore := ih fun x hx => hrecords x (List.mem_append_left _ hx)
      rw [List.foldl_append]
      generalize origins.foldl Dispatcher.scheduleFanOut (d, a) = state at hbefore ⊢
      obtain ⟨d', a'⟩ := state
      obtain ⟨record, hrecord⟩ := Option.ne_none_iff_exists'.mp (hrecords o (by simp))
      have hfound : d'.record? o = some record :=
        (Dispatcher.record?_congr hbefore.records o).trans hrecord
      rw [List.foldl_cons, List.foldl_nil, scheduleFanOut_of_record hfound]
      refine ⟨hbefore.records, hbefore.nextEndpoint, ?_, hbefore.elapsed,
        fun h => (hbefore.sound h).schedule _ _, ?_⟩
      · show d'.nextTicket + 1 = _
        rw [hbefore.nextTicket, List.length_append]
        rfl
      · have hnew : d.booked a.elapsed (origins ++ [o]) = d.booked a.elapsed origins ++
            [⟨d'.nextTicket, o, a'.elapsed + record.delay⟩] := by
          unfold Dispatcher.booked
          rw [List.mapIdx_concat, hbefore.nextTicket, hbefore.elapsed]
          simp [Dispatcher.randomDelay, hrecord]
        apply (bookings_schedule a' record.delay _).trans
        rw [hnew, List.append_assoc]
        apply (hbefore.bookings.cons _).trans
        exact List.perm_middle.symm

theorem Dispatcher.Kept.booked {d d' : Dispatcher ε} (h : d.Kept d') (now : Span)
    (origins : List Origin) : d'.booked now origins = d.booked now origins := by
  unfold Dispatcher.booked Dispatcher.randomDelay
  simp only [h.nextTicket, record?_congr h.records]

/-- Bookings are made from the registry, the next ticket and the time. -/
theorem Scattered.of_kept {d e d' : Dispatcher ε} {a a' : Agenda (Errand κ)}
    {origins : List Origin} (h : Scattered e a origins d' a') (hkept : d.Kept e) :
    Scattered d a origins d' a' where
  records := h.records.trans hkept.records
  nextEndpoint := h.nextEndpoint.trans hkept.nextEndpoint
  nextTicket := hkept.nextTicket ▸ h.nextTicket
  elapsed := h.elapsed
  sound := h.sound
  bookings := hkept.booked a.elapsed origins ▸ h.bookings

/-- An order in which the records are gone through. -/
structure Route where
  visit : List Origin → List Origin
  perm : ∀ origins, (visit origins).Perm origins

/-- The order of the records themselves. -/
def Route.straight : Route := ⟨id, fun _ => List.Perm.refl _⟩

theorem scattered_visit {d e : Dispatcher ε} (hkept : d.Kept e) (route : Route)
    (a : Agenda (Errand κ)) :
    Scattered d a (route.visit (e.records.map Prod.fst))
      ((route.visit (e.records.map Prod.fst)).foldl Dispatcher.scheduleFanOut (e, a)).1
      ((route.visit (e.records.map Prod.fst)).foldl Dispatcher.scheduleFanOut (e, a)).2 :=
  (scattered_foldl e a _ fun _ ho =>
    Dispatcher.record?_ne_none.mpr ((route.perm _).mem_iff.mp ho)).of_kept hkept

/-- A dispatcher that accepts a broadcast at a clock reading. -/
def Dispatcher.accepting (d : Dispatcher ε) (now : Span) : Dispatcher ε :=
  { d with
    lastDispatch := some now
    stats := { d.stats with dispatches := d.stats.dispatches + 1 } }

/-- A dispatcher that suppresses a broadcast. -/
def Dispatcher.suppressing (d : Dispatcher ε) : Dispatcher ε :=
  { d with stats := { d.stats with suppressed := d.stats.suppressed + 1 } }

section Verdicts

variable {σ : Type} [TimerService σ (Errand κ)] (visit : List Origin → List Origin)
  (d : Dispatcher ε) (timers : σ)

theorem Dispatcher.broadcast_of_unreadable :
    d.broadcast visit timers none =
      (.unreadableClock, d.resolveInterval.2.1, timers, d.resolveInterval.2.2) := rfl

variable {now : Span}

theorem Dispatcher.broadcast_of_early
    (h : d.resolveInterval.2.1.debounced d.resolveInterval.1 now) :
    d.broadcast visit timers (some now) =
      (.suppressed, d.resolveInterval.2.1.suppressing, timers,
        d.resolveInterval.2.2 ++ [.suppressed]) := by
  unfold Dispatcher.broadcast
  dsimp only
  rw [if_pos h]
  rfl

theorem Dispatcher.broadcast_of_ready
    (h : ¬ d.resolveInterval.2.1.debounced d.resolveInterval.1 now) :
    let state := (visit (d.resolveInterval.2.1.records.map Prod.fst)).foldl
      Dispatcher.scheduleFanOut (d.resolveInterval.2.1.accepting now, timers)
    d.broadcast visit timers (some now) =
      (.accepted, state.1, state.2,
        d.resolveInterval.2.2 ++ [.dispatching d.resolveInterval.2.1.records.length]) := by
  unfold Dispatcher.broadcast
  dsimp only
  rw [if_neg h]
  rfl

end Verdicts

/-- A broadcast books a fan-out for every record, or it is not accepted. -/
theorem broadcast_cases (route : Route) (d : Dispatcher ε) (a : Agenda (Errand κ))
    (now : Option Span) :
    ((d.broadcast route.visit a now).1 ≠ .accepted ∧ d.Kept (d.broadcast route.visit a now).2.1 ∧
        (d.broadcast route.visit a now).2.2.1 = a) ∨
      ((d.broadcast route.visit a now).1 = .accepted ∧
        ∃ origins, origins.Perm (d.records.map Prod.fst) ∧
          Scattered d a origins (d.broadcast route.visit a now).2.1
            (d.broadcast route.visit a now).2.2.1) := by
  have hkept := d.resolveInterval_kept
  cases now with
  | none =>
      rw [d.broadcast_of_unreadable route.visit a]
      exact .inl ⟨nofun, hkept, rfl⟩
  | some now =>
      by_cases hearly : d.resolveInterval.2.1.debounced d.resolveInterval.1 now
      · rw [d.broadcast_of_early route.visit a hearly]
        exact .inl ⟨nofun, ⟨hkept.records, hkept.nextEndpoint, hkept.nextTicket⟩, rfl⟩
      · rw [d.broadcast_of_ready route.visit a hearly]
        have hvisit := route.perm (d.resolveInterval.2.1.records.map Prod.fst)
        nth_rewrite 2 [hkept.records] at hvisit
        have haccepting : d.Kept (d.resolveInterval.2.1.accepting now) :=
          ⟨hkept.records, hkept.nextEndpoint, hkept.nextTicket⟩
        exact .inr ⟨rfl, _, hvisit, scattered_visit haccepting route a⟩

/-! ## Work that is taken back -/

/-- Takes posted work back. The numbers of its fan-outs are known to the dispatcher alone,
so nobody else takes them back. -/
def withdraw (a : Agenda (Errand κ)) (id : TaskId) : Agenda (Errand κ) :=
  if a.queue.any fun e => e.id = id ∧ (booking? e).isSome then a else a.cancel id

/-- Work that is taken back leaves the time and all that waits besides it alone. -/
theorem withdraw_cases (a : Agenda (Errand κ)) (id : TaskId) :
    withdraw a id = a ∨
      withdraw a id = a.cancel id ∧ ∀ e ∈ a.queue, e.id = id → booking? e = none := by
  unfold withdraw
  split
  next => exact .inl rfl
  next hnone =>
    refine .inr ⟨rfl, fun e he hid => ?_⟩
    simp only [List.any_eq_true, decide_eq_true_eq, not_exists, not_and] at hnone
    simpa using hnone e he hid

theorem withdraw_sound {a : Agenda (Errand κ)} (h : a.Sound) (id : TaskId) :
    (withdraw a id).Sound := by
  rcases withdraw_cases a id with heq | ⟨heq, _⟩ <;> rw [heq]
  · exact h
  · exact h.cancel id

/-- What is read off the queue does not change unless it is read off the work itself. -/
theorem withdraw_filterMap {α : Type} {a : Agenda (Errand κ)} (h : a.Sound) {id : TaskId}
    {f : Entry (Errand κ) → Option α}
    (hf : ∀ e ∈ a.queue, e.id = id → booking? e = none → f e = none) :
    (withdraw a id).queue.filterMap f = a.queue.filterMap f := by
  rcases withdraw_cases a id with heq | ⟨heq, hposted⟩ <;> rw [heq]
  rw [h.cancel_queue, List.filterMap_filter]
  apply List.filterMap_congr
  intro e he
  by_cases hid : e.id = id
  · simp [hid, hf e he hid (hposted e he hid)]
  · simp [hid]

theorem bookings_withdraw {a : Agenda (Errand κ)} (h : a.Sound) (id : TaskId) :
    bookings (withdraw a id) = bookings a :=
  withdraw_filterMap h fun _ _ _ he => he

end Cadence.Broadcast
