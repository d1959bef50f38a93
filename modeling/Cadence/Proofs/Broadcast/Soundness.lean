import Cadence.Proofs.Broadcast.Fanouts
import Mathlib.Data.List.Perm.Subperm

/-! # Soundness of a dispatcher session

Throughout every run the agenda and the registry are sound, no two scheduled
fan-outs share a ticket, and a fan-out goes through its listeners in ascending
order, so that it turns to each of them at most once.
-/

namespace Cadence.Broadcast

/-! ## The stack -/

/-- What a step does to the stack and the time. Time moves only in a turn of the
drive on top, and no scheduled fan-out comes to lie below a drive in that turn. -/
inductive Restack {ε κ : Type} (travels : Prop) (s s' : OnAgenda ε κ) : Prop
  | calls (old new rest : List (Frame Agenda.Drive)) (before : s.frames = old ++ rest)
      (frames : s'.frames = new ++ rest) (still : ∀ drive, .travelling drive ∉ new)
      (elapsed : s'.timers.elapsed = s.timers.elapsed)
  | depart (asked : travels) (drive : Agenda.Drive) (aimed : drive.Aimed)
      (frames : s'.frames = .travelling drive :: s.frames)
      (elapsed : s'.timers.elapsed = s.timers.elapsed)
  | turn (drive : Agenda.Drive) (new rest : List (Frame Agenda.Drive))
      (before : s.frames = .travelling drive :: rest) (frames : s'.frames = new ++ rest)
      (aimed : drive.Aimed → ∀ d, .travelling d ∈ new → d.Aimed)
      (above : new.Pairwise fun frame below =>
        below.active? ≠ none → ∀ d, frame ≠ .travelling d)

theorem Step.restack {ε κ : Type} {travels : Prop} {s s' : OnAgenda ε κ}
    {notification : Option Notification} (h : Step travels s s' notification) :
    Restack travels s s' := by
  cases h with
  | rest _ timers frames => exact .calls [] [] s.frames rfl frames (by simp) (by rw [timers])
  | enroll _ _ _ timers frames =>
      exact .calls [] [_] s.frames rfl frames (by simp) (by rw [timers])
  | strike _ _ timers frames => exact .calls [] [] s.frames rfl frames (by simp) (by rw [timers])
  | scatter _ _ scattered frames =>
      exact .calls [] [] s.frames rfl frames (by simp) scattered.elapsed
  | post _ _ _ timers frames =>
      exact .calls [] [] s.frames rfl frames (by simp) (by rw [timers]; rfl)
  | depart asked drive aimed _ timers frames =>
      exact .depart asked drive aimed frames (by rw [timers])
  | back frame _ timers frames _ _ =>
      exact .calls [frame] [] s'.frames frames rfl (by simp) (by rw [timers])
  | next _ _ _ _ _ _ rest _ timers before _ _ frames =>
      exact .calls [_] [_] rest before frames (by simp) (by rw [timers])
  | call _ _ _ _ timers _ frames =>
      exact .calls [] [_] s.frames rfl frames (by simp) (by rw [timers])
  | fire drive rest _ _ origin ticket id later _ before _ _ _ _ frames =>
      -- the drive goes on below the fan-out that it brought up
      refine .turn drive [.fanning (.task ticket) origin id later, .travelling _] rest before frames
        (fun haimed d hd => ?_) (by simp)
      cases List.mem_singleton.mp ((List.mem_cons.mp hd).resolve_left nofun)
      exact haimed
  | miss drive rest _ _ _ _ _ before _ _ _ _ frames =>
      refine .turn drive [.travelling _] rest before frames (fun haimed d hd => ?_) (by simp)
      cases List.mem_singleton.mp hd
      exact haimed
  | work drive rest _ _ _ _ before _ _ _ frames =>
      refine .turn drive [.working, .travelling _] rest before frames
        (fun haimed d hd => ?_) (by simp)
      cases List.mem_singleton.mp ((List.mem_cons.mp hd).resolve_left nofun)
      exact haimed
  | arrive drive _ before _ _ => exact .turn drive [] s'.frames before rfl (by simp) (by simp)

/-! ## Soundness -/

namespace Session

variable {ε κ : Type}

/-- What holds throughout every run: fan-outs are told apart by their tickets, and
each goes through its listeners in ascending order. -/
structure Sound (s : OnAgenda ε κ) : Prop where
  agenda : s.timers.Sound
  aimed : ∀ drive, .travelling drive ∈ s.frames → drive.Aimed
  registry : s.dispatcher.Sound
  tickets_nodup : s.outstanding.Nodup
  ticket_lt : ∀ t ∈ s.outstanding, t < s.dispatcher.nextTicket
  ascending : ∀ f ∈ s.active, (f.current :: f.rest).Pairwise (· < ·)

theorem sound_fresh (intervals : IntervalSource) (delays : DelaySource) :
    (fresh intervals delays : OnAgenda ε κ).Sound where
  agenda := Agenda.sound_empty
  aimed := by simp [fresh]
  registry := Dispatcher.sound_of_no_records rfl
  tickets_nodup := List.nodup_nil
  ticket_lt := by simp [outstanding, active, fresh, bookings]
  ascending := by simp [active, fresh]

end Session

namespace Step

variable {ε κ : Type} {travels : Prop} {s s' : OnAgenda ε κ}
  {notification : Option Notification}

theorem agenda (h : Step travels s s' notification) (hsound : s.Sound) : s'.timers.Sound := by
  cases h with
  | rest _ timers _ => exact timers ▸ hsound.agenda
  | enroll _ _ _ timers _ => exact timers ▸ hsound.agenda
  | strike _ _ timers _ => exact timers ▸ hsound.agenda
  | scatter _ _ scattered _ => exact scattered.sound hsound.agenda
  | post delay work _ timers _ => exact timers ▸ hsound.agenda.schedule delay _
  | depart _ _ _ _ timers _ => exact timers ▸ hsound.agenda
  | back _ _ timers _ _ _ => exact timers ▸ hsound.agenda
  | next _ _ _ _ _ _ _ _ timers _ _ _ _ => exact timers ▸ hsound.agenda
  | call _ _ _ _ timers _ _ => exact timers ▸ hsound.agenda
  | fire _ _ _ _ _ _ _ _ _ _ due _ _ timers _ => exact timers ▸ hsound.agenda.started due
  | miss _ _ _ _ _ _ _ _ due _ _ timers _ => exact timers ▸ hsound.agenda.started due
  | work _ _ _ _ _ _ _ due _ timers _ => exact timers ▸ hsound.agenda.started due
  | arrive drive _ before idle timers =>
      have haimed := hsound.aimed drive (before ▸ List.mem_cons_self)
      exact timers ▸ hsound.agenda.settled haimed idle

theorem aimed (h : Step travels s s' notification) (hsound : s.Sound) (drive : Agenda.Drive)
    (hdrive : .travelling drive ∈ s'.frames) : drive.Aimed := by
  have haimed := hsound.aimed
  cases h.restack with
  | calls old new rest before frames still _ =>
      rw [frames] at hdrive
      rw [before] at haimed
      exact haimed drive
        (List.mem_append_right _ ((List.mem_append.mp hdrive).resolve_left (still drive)))
  | depart _ new aimed frames _ =>
      rw [frames] at hdrive
      rcases List.mem_cons.mp hdrive with heq | hdrive
      · cases heq
        exact aimed
      · exact haimed drive hdrive
  | turn old new rest before frames aimed _ =>
      rw [frames] at hdrive
      rw [before] at haimed
      rcases List.mem_append.mp hdrive with hnew | hrest
      · exact aimed (haimed old List.mem_cons_self) drive hnew
      · exact haimed drive (List.mem_cons_of_mem _ hrest)

/-- A step that neither registers nor releases a listener leaves the registry as it is. -/
theorem registry_cases (h : Step travels s s' notification) :
    (s'.dispatcher.records = s.dispatcher.records ∧
        s'.dispatcher.nextEndpoint = s.dispatcher.nextEndpoint) ∨
      (∃ origin endpoint, s'.dispatcher = (s.dispatcher.add origin endpoint).2.1) ∨
      ∃ r, s'.dispatcher = (s.dispatcher.remove r).1 := by
  cases h with
  | enroll origin endpoint dispatcher _ _ => exact .inr (.inl ⟨origin, endpoint, dispatcher⟩)
  | strike r dispatcher _ _ => exact .inr (.inr ⟨r, dispatcher⟩)
  | scatter _ _ scattered _ => exact .inl ⟨scattered.records, scattered.nextEndpoint⟩
  | rest kept _ _ => exact .inl ⟨kept.records, kept.nextEndpoint⟩
  | post _ _ kept _ _ => exact .inl ⟨kept.records, kept.nextEndpoint⟩
  | depart _ _ _ kept _ _ => exact .inl ⟨kept.records, kept.nextEndpoint⟩
  | back _ kept _ _ _ _ => exact .inl ⟨kept.records, kept.nextEndpoint⟩
  | next _ _ _ _ _ _ _ kept _ _ _ _ _ => exact .inl ⟨kept.records, kept.nextEndpoint⟩
  | call _ _ _ kept _ _ _ => exact .inl ⟨kept.records, kept.nextEndpoint⟩
  | fire _ _ _ _ _ _ _ _ kept _ _ _ _ _ _ => exact .inl ⟨kept.records, kept.nextEndpoint⟩
  | miss _ _ _ _ _ _ kept _ _ _ _ _ _ => exact .inl ⟨kept.records, kept.nextEndpoint⟩
  | work _ _ _ _ _ kept _ _ _ _ _ => exact .inl ⟨kept.records, kept.nextEndpoint⟩
  | arrive _ kept _ _ _ => exact .inl ⟨kept.records, kept.nextEndpoint⟩

end Step

section Tickets

variable {ε κ : Type} {s s' : OnAgenda ε κ} {delivery : Option Delivery}

/-- The only tickets that a step hands out are the next ones. -/
theorem Turn.outstanding (h : Turn s s' delivery) :
    ∃ k, s'.dispatcher.nextTicket = s.dispatcher.nextTicket + k ∧
      s'.outstanding.Subperm (List.range' s.dispatcher.nextTicket k ++ s.outstanding) := by
  unfold Session.outstanding
  cases h with
  | idle nextTicket bookings active =>
      refine ⟨0, nextTicket, List.Perm.subperm ?_⟩
      rw [active]
      exact (bookings.map _).append_right _
  | book origins visited nextTicket bookings active =>
      refine ⟨origins.length, nextTicket, List.Perm.subperm ?_⟩
      rw [active, ← booked_tickets s.dispatcher s.timers.elapsed, ← List.append_assoc,
        ← List.map_append]
      exact (bookings.map _).append_right _
  | fire b id later nextTicket bookings registered active elapsed =>
      refine ⟨0, nextTicket, List.Perm.subperm ?_⟩
      rw [bookings, active]
      exact List.perm_middle
  | miss b nextTicket bookings registered active elapsed =>
      -- its ticket is given up for good
      refine ⟨0, nextTicket, List.Sublist.subperm ?_⟩
      rw [bookings, active]
      exact List.sublist_cons_self _ _
  | next f rest id passed later nextTicket bookings before split gone here active elapsed =>
      refine ⟨0, nextTicket, List.Perm.subperm ?_⟩
      rw [bookings, before, active]
      exact List.Perm.refl _
  | through f nextTicket bookings before gone elapsed =>
      refine ⟨0, nextTicket, List.Sublist.subperm ?_⟩
      rw [bookings, before]
      exact (List.sublist_cons_self _ _).append_left _

theorem Turn.nextTicket_le (h : Turn s s' delivery) :
    s.dispatcher.nextTicket ≤ s'.dispatcher.nextTicket := by
  obtain ⟨k, hk, _⟩ := h.outstanding
  rw [hk]
  exact Nat.le_add_right _ k

theorem Turn.tickets (h : Turn s s' delivery) (hsound : s.Sound) :
    s'.outstanding.Nodup ∧ ∀ t ∈ s'.outstanding, t < s'.dispatcher.nextTicket := by
  obtain ⟨k, hk, tickets, hperm, hsublist⟩ := h.outstanding
  -- the tickets handed out are beyond all that are outstanding
  have hfresh : (List.range' s.dispatcher.nextTicket k ++ s.outstanding).Nodup := by
    refine List.nodup_append.mpr ⟨List.nodup_range', hsound.tickets_nodup, ?_⟩
    rintro t ht _ hold rfl
    exact Nat.not_lt.mpr (List.mem_range'_1.mp ht).1 (hsound.ticket_lt t hold)
  refine ⟨hperm.nodup_iff.mp (hfresh.sublist hsublist), fun t ht => ?_⟩
  rw [hk]
  rcases List.mem_append.mp (hsublist.subset (hperm.mem_iff.mpr ht)) with hnew | hold
  · exact (List.mem_range'_1.mp hnew).2
  · exact Nat.lt_add_right k (hsound.ticket_lt t hold)

/-- A fan-out turns to ever later listeners. -/
theorem Turn.ascending (h : Turn s s' delivery) (hsound : s.Sound) :
    ∀ f ∈ s'.active, (f.current :: f.rest).Pairwise (· < ·) := by
  have hascending := hsound.ascending
  cases h with
  | idle _ _ active => exact active ▸ hascending
  | book _ _ _ _ active => exact active ▸ hascending
  | fire b id later _ _ registered active _ =>
      rw [active]
      intro f hf
      rcases List.mem_cons.mp hf with rfl | hf
      · exact registered ▸ hsound.registry.ascending b.origin
      · exact hascending f hf
  | miss _ _ _ _ active _ => exact active ▸ hascending
  | next f rest id passed later _ _ before split _ _ active _ =>
      rw [before] at hascending
      rw [active]
      intro g hg
      rcases List.mem_cons.mp hg with rfl | hg
      · have hf := hascending f List.mem_cons_self
        rw [split] at hf
        exact (List.pairwise_append.mp (List.pairwise_cons.mp hf).2).2.1
      · exact hascending g (List.mem_cons_of_mem f hg)
  | through f _ _ before _ _ =>
      rw [before] at hascending
      exact fun g hg => hascending g (List.mem_cons_of_mem f hg)

end Tickets

namespace Session

variable {ε κ : Type} {s s' : OnAgenda ε κ}

theorem Sound.step {travels : Prop} {notification : Option Notification} (h : s.Sound)
    (hstep : Step travels s s' notification) : s'.Sound where
  agenda := hstep.agenda h
  aimed := hstep.aimed h
  registry := by
    rcases hstep.registry_cases with ⟨hrecords, hnext⟩ | ⟨origin, endpoint, hadd⟩ | ⟨r, hremove⟩
    · exact h.registry.congr hrecords hnext
    · exact hadd ▸ h.registry.add origin endpoint
    · exact hremove ▸ h.registry.remove r
  tickets_nodup := ((hstep.turn h.agenda).tickets h).1
  ticket_lt := ((hstep.turn h.agenda).tickets h).2
  ascending := (hstep.turn h.agenda).ascending h

/-- Taking tasks back leaves a part of the queue and lets no time pass. -/
theorem sound_foldl_cancel {τ : Type} {a : Agenda τ} (h : a.Sound)
    (tasks : List (Ticket × TaskId)) :
    (tasks.foldl (fun a (_, id) => a.cancel id) a).Sound ∧
      (tasks.foldl (fun a (_, id) => a.cancel id) a).queue.Sublist a.queue ∧
      (tasks.foldl (fun a (_, id) => a.cancel id) a).elapsed = a.elapsed := by
  induction tasks generalizing a with
  | nil => exact ⟨h, List.Sublist.refl _, rfl⟩
  | cons task rest ih =>
      obtain ⟨hsound, hqueue, helapsed⟩ := ih (h.cancel task.2)
      rw [h.cancel_queue] at hqueue
      rw [Agenda.cancel_elapsed] at helapsed
      exact ⟨hsound, hqueue.trans List.filter_sublist, helapsed⟩

/-- A dispatcher that goes away has no records, and books nothing any more. -/
theorem Sound.bookings_close (h : s.Sound) :
    (bookings s.close.1.timers).Sublist (bookings s.timers) :=
  (sound_foldl_cancel h.agenda s.dispatcher.inFlight).2.1.filterMap booking?

theorem Sound.close (h : s.Sound) : s.close.1.Sound where
  agenda := (sound_foldl_cancel h.agenda s.dispatcher.inFlight).1
  aimed := h.aimed
  registry := Dispatcher.sound_of_no_records rfl
  tickets_nodup := h.tickets_nodup.sublist ((h.bookings_close.map _).append_right _)
  ticket_lt t ht := h.ticket_lt t (((h.bookings_close.map _).append_right _).subset ht)
  ascending := h.ascending

/-- A deed is one turn, after which an orphaned dispatcher may go away. -/
theorem Sound.turn_act (h : s.Sound) (deed : Deed ε κ) :
    ∃ u : OnAgenda ε κ, u.Sound ∧ Turn s u (s.act deed).delivery? ∧
      ((s.act deed).session = u ∨
        ((s.act deed).delivery? = none ∧ (s.act deed).session = u.close.1)) := by
  obtain ⟨u, hstep, hend⟩ := s.leads_act deed
  refine ⟨u, h.step hstep, hstep.turn h.agenda, hend.imp_right fun ⟨hquiet, heq⟩ => ⟨?_, heq⟩⟩
  unfold Outcome.delivery?
  rw [hquiet]
  rfl

theorem Sound.act (h : s.Sound) (deed : Deed ε κ) : (s.act deed).session.Sound := by
  obtain ⟨u, hstep, hend⟩ := s.leads_act deed
  rcases hend with heq | ⟨_, heq⟩
  · exact heq ▸ h.step hstep
  · exact heq ▸ (h.step hstep).close

theorem Sound.undergo (hsound : s.Sound) (h : Happening ε κ) : (s.undergo h).session.Sound := by
  cases h with
  | deed deed => exact hsound.act deed
  | withdraw id =>
      have hbookings : bookings (withdraw s.timers id) = bookings s.timers :=
        bookings_withdraw hsound.agenda id
      have houtstanding : (s.undergo (.withdraw id)).session.outstanding = s.outstanding :=
        congrArg (fun found => found.map Booking.ticket ++ s.active.map Active.ticket) hbookings
      exact
        { agenda := withdraw_sound hsound.agenda id
          aimed := hsound.aimed
          registry := hsound.registry
          tickets_nodup := houtstanding ▸ hsound.tickets_nodup
          ticket_lt := houtstanding ▸ hsound.ticket_lt
          ascending := hsound.ascending }

theorem Sound.course (hsound : s.Sound) (run : List (Happening ε κ)) : (s.course run).Sound := by
  induction run generalizing s with
  | nil => exact hsound
  | cons h rest ih => exact ih (hsound.undergo h)

theorem Sound.after (h : s.Sound) (deeds : List (Deed ε κ)) : (s.after deeds).Sound :=
  s.course_deeds deeds ▸ h.course (deeds.map .deed)

end Session

end Cadence.Broadcast
