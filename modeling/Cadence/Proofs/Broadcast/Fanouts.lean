import Cadence.Proofs.Broadcast.Run

/-! # Scheduled fan-outs

A booked fan-out is taken off the agenda when it comes up, notifies its listeners
in turn from its frame on the stack, and is over. A step concerns at most one of
the fan-outs that are booked or under way, unless it books new ones.
-/

namespace Cadence.Broadcast

/-- A scheduled fan-out that is under way. -/
structure Active where
  ticket : Ticket
  origin : Origin
  current : EndpointId
  rest : List EndpointId
deriving DecidableEq

/-- The scheduled fan-out that a frame belongs to, if it belongs to one. -/
def Frame.active? {δ : Type} : Frame δ → Option Active
  | .fanning (.task ticket) origin current rest => some ⟨ticket, origin, current, rest⟩
  | _ => none

namespace Session

variable {ε κ : Type}

/-- The scheduled fan-outs under way, innermost first. -/
def active (s : OnAgenda ε κ) : List Active := s.frames.filterMap Frame.active?

theorem active_of_frames {s s' : OnAgenda ε κ} (h : s'.frames = s.frames) :
    s'.active = s.active := by
  simp [active, h]

theorem active_of_top {s : OnAgenda ε κ} {frame : Frame Agenda.Drive}
    {rest : List (Frame Agenda.Drive)} (h : s.frames = frame :: rest) :
    s.active = frame.active?.toList ++ rest.filterMap Frame.active? := by
  simp only [active, h, List.filterMap_cons]
  cases frame.active? <;> rfl

theorem active_of_cons {s s' : OnAgenda ε κ} {frame : Frame Agenda.Drive}
    (h : s'.frames = frame :: s.frames) : s'.active = frame.active?.toList ++ s.active :=
  active_of_top h

/-- The tickets of fan-outs that are booked or under way. -/
def outstanding (s : OnAgenda ε κ) : List Ticket :=
  (bookings s.timers).map Booking.ticket ++ s.active.map Active.ticket

end Session

/-! ## Turns -/

/-- What a step does to the scheduled fan-outs. -/
inductive Turn {ε κ : Type} (s s' : OnAgenda ε κ) : Option Delivery → Prop
  /-- None of them is concerned. -/
  | idle (nextTicket : s'.dispatcher.nextTicket = s.dispatcher.nextTicket)
      (bookings : (bookings s'.timers).Perm (bookings s.timers)) (active : s'.active = s.active) :
      Turn s s' none
  /-- New ones are booked. -/
  | book (origins : List Origin) (visited : origins.Perm (s.dispatcher.records.map Prod.fst))
      (nextTicket : s'.dispatcher.nextTicket = s.dispatcher.nextTicket + origins.length)
      (bookings : (bookings s'.timers).Perm
        (s.dispatcher.booked s.timers.elapsed origins ++ bookings s.timers))
      (active : s'.active = s.active) : Turn s s' none
  /-- One comes up and notifies its first listener. -/
  | fire (b : Booking) (id : EndpointId) (later : List EndpointId)
      (nextTicket : s'.dispatcher.nextTicket = s.dispatcher.nextTicket)
      (bookings : bookings s.timers = b :: bookings s'.timers)
      (registered : s.dispatcher.registered b.origin = id :: later)
      (active : s'.active = ⟨b.ticket, b.origin, id, later⟩ :: s.active)
      (elapsed : s'.timers.elapsed = b.due) : Turn s s' (some ⟨b.ticket, b.origin, id, b.due⟩)
  /-- One comes up and finds no listener. -/
  | miss (b : Booking) (nextTicket : s'.dispatcher.nextTicket = s.dispatcher.nextTicket)
      (bookings : bookings s.timers = b :: bookings s'.timers)
      (registered : s.dispatcher.registered b.origin = []) (active : s'.active = s.active)
      (elapsed : s'.timers.elapsed = b.due) : Turn s s' none
  /-- The innermost one goes on to its next listener. -/
  | next (f : Active) (rest : List Active) (id : EndpointId) (passed later : List EndpointId)
      (nextTicket : s'.dispatcher.nextTicket = s.dispatcher.nextTicket)
      (bookings : bookings s'.timers = bookings s.timers) (before : s.active = f :: rest)
      (split : f.rest = passed ++ id :: later)
      (gone : ∀ x ∈ passed, x ∉ s.dispatcher.registered f.origin)
      (here : id ∈ s.dispatcher.registered f.origin)
      (active : s'.active = ⟨f.ticket, f.origin, id, later⟩ :: rest)
      (elapsed : s'.timers.elapsed = s.timers.elapsed) :
      Turn s s' (some ⟨f.ticket, f.origin, id, s.timers.elapsed⟩)
  /-- The innermost one is over. -/
  | through (f : Active) (nextTicket : s'.dispatcher.nextTicket = s.dispatcher.nextTicket)
      (bookings : bookings s'.timers = bookings s.timers) (before : s.active = f :: s'.active)
      (gone : ∀ x ∈ f.rest, x ∉ s.dispatcher.registered f.origin)
      (elapsed : s'.timers.elapsed = s.timers.elapsed) : Turn s s' none

/-- A fan-out that comes up is the first one booked, and it is due. -/
theorem Session.comes_up {ε κ : Type} {s s' : OnAgenda ε κ} (hsound : s.timers.Sound)
    {limit : Span} {e : Entry (Errand κ)} {b : Agenda (Errand κ)}
    (hdue : s.timers.popDue limit = some (e, b)) {origin : Origin} {ticket : Ticket}
    (htask : e.task = .fanOut origin ticket) (htimers : s'.timers = b.started e) :
    bookings s.timers = ⟨ticket, origin, e.key.deadline⟩ :: bookings s'.timers ∧
      s'.timers.elapsed = e.key.deadline := by
  have hbookings := bookings_of_popDue hdue
  rw [booking?_of_fanOut htask] at hbookings
  rw [htimers]
  exact ⟨hbookings, hsound.started_elapsed hdue⟩

theorem Step.turn {ε κ : Type} {travels : Prop} {s s' : OnAgenda ε κ}
    {notification : Option Notification} (h : Step travels s s' notification)
    (hsound : s.timers.Sound) : Turn s s' (notification.bind Notification.delivery?) := by
  cases h with
  | rest kept timers frames =>
      exact .idle kept.nextTicket (timers ▸ List.Perm.refl _) (Session.active_of_frames frames)
  | enroll origin endpoint dispatcher timers frames =>
      refine .idle ?_ (timers ▸ List.Perm.refl _) (Session.active_of_cons frames)
      rw [dispatcher]
      exact (s.dispatcher.add_counters origin endpoint).2
  | strike r dispatcher timers frames =>
      refine .idle ?_ (timers ▸ List.Perm.refl _) (Session.active_of_frames frames)
      rw [dispatcher]
      exact (s.dispatcher.remove_counters r).2
  | scatter origins visited scattered frames =>
      exact .book origins visited scattered.nextTicket scattered.bookings
        (Session.active_of_frames frames)
  | post delay work kept timers frames =>
      refine .idle kept.nextTicket ?_ (Session.active_of_frames frames)
      rw [timers]
      exact bookings_schedule s.timers delay (.posted work)
  | depart _ drive aimed kept timers frames =>
      exact .idle kept.nextTicket (timers ▸ List.Perm.refl _) (Session.active_of_cons frames)
  | back frame kept timers frames still through =>
      have hactive := Session.active_of_cons frames
      cases hframe : frame.active? with
      | none =>
          rw [hframe] at hactive
          exact .idle kept.nextTicket (timers ▸ List.Perm.refl _) hactive.symm
      | some f =>
          rw [hframe] at hactive
          refine .through f kept.nextTicket (by rw [timers]) hactive ?_ (by rw [timers])
          unfold Frame.active? at hframe
          split at hframe
          next ticket origin current rest =>
            cases hframe
            exact through _ origin current rest rfl
          next => cases hframe
  | next entrance origin last id passed later rest kept timers before gone here frames =>
      -- the listener notified changes, and of the frames below nothing does
      have hbefore := Session.active_of_top before
      have hafter := Session.active_of_top frames
      cases entrance with
      | request =>
          exact .idle kept.nextTicket (timers ▸ List.Perm.refl _) (hafter.trans hbefore.symm)
      | task ticket =>
          have hturn : Turn s s' (some ⟨ticket, origin, id, s.timers.elapsed⟩) :=
            .next ⟨ticket, origin, last, passed ++ id :: later⟩ _ id passed later kept.nextTicket
              (by rw [timers]) hbefore rfl gone here hafter (by rw [timers])
          rw [← timers] at hturn
          exact hturn
  | call origin id later kept timers registered frames =>
      exact .idle kept.nextTicket (timers ▸ List.Perm.refl _) (Session.active_of_cons frames)
  | fire drive rest e b origin ticket id later kept before due task registered timers frames =>
      obtain ⟨hbookings, helapsed⟩ := Session.comes_up hsound due task timers
      rw [helapsed]
      refine Turn.fire ⟨ticket, origin, e.key.deadline⟩ id later kept.nextTicket hbookings
        registered ?_ helapsed
      unfold Session.active
      rw [before, frames]
      rfl
  | miss drive rest e b origin ticket kept before due task registered timers frames =>
      obtain ⟨hbookings, helapsed⟩ := Session.comes_up hsound due task timers
      refine Turn.miss ⟨ticket, origin, e.key.deadline⟩ kept.nextTicket hbookings
        registered ?_ helapsed
      unfold Session.active
      rw [before, frames]
      rfl
  | work drive rest e b work kept before due task timers frames =>
      have hbookings := bookings_of_popDue due
      rw [booking?_of_posted task, ← timers] at hbookings
      refine .idle kept.nextTicket (List.Perm.of_eq hbookings.symm) ?_
      unfold Session.active
      rw [before, frames]
      rfl
  | arrive drive kept before idle timers =>
      refine .idle kept.nextTicket (timers ▸ List.Perm.refl _) ?_
      exact (Session.active_of_cons before).symm

end Cadence.Broadcast
