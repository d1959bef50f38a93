import Cadence.Proofs.Broadcast.Soundness

/-! # Deliveries

A fan-out awaits a listener while it is booked and, once it is under way, while
the listener is among those it has still to turn to. What it ceases to await it
never awaits again, so that each listener has at most one turn in it. At its turn
a listener is notified if it is registered, and otherwise passed over.
-/

namespace Cadence.Broadcast

namespace Session

variable {ε κ : Type}

/-- The fan-out of a ticket has still to turn to a listener. -/
def Awaits (s : OnAgenda ε κ) (ticket : Ticket) (id : EndpointId) : Prop :=
  (∃ b ∈ bookings s.timers, b.ticket = ticket) ∨
    ∃ f ∈ s.active, f.ticket = ticket ∧ id ∈ f.rest

theorem Awaits.outstanding {s : OnAgenda ε κ} {ticket : Ticket} {id : EndpointId}
    (h : s.Awaits ticket id) : ticket ∈ s.outstanding := by
  rcases h with ⟨b, hb, rfl⟩ | ⟨f, hf, rfl, _⟩
  · exact List.mem_append_left _ (List.mem_map_of_mem hb)
  · exact List.mem_append_right _ (List.mem_map_of_mem hf)

/-- A fan-out under way awaits nobody but its remaining listeners. -/
theorem Sound.not_awaits {s : OnAgenda ε κ} (h : s.Sound) {f : Active} {rest : List Active}
    (hactive : s.active = f :: rest) {id : EndpointId} (hid : id ∉ f.rest) :
    ¬ s.Awaits f.ticket id := by
  have hnodup := h.tickets_nodup
  unfold outstanding at hnodup
  rw [hactive, List.map_cons] at hnodup
  obtain ⟨_, hactive', hdisjoint⟩ := List.nodup_append.mp hnodup
  rintro (⟨b, hb, hticket⟩ | ⟨g, hg, hticket, hmem⟩)
  · exact hdisjoint b.ticket (List.mem_map_of_mem hb) f.ticket List.mem_cons_self hticket
  · rw [hactive] at hg
    rcases List.mem_cons.mp hg with rfl | hg
    · exact hid hmem
    · exact (List.nodup_cons.mp hactive').1 (hticket ▸ List.mem_map_of_mem hg)

theorem Sound.current_not_mem {s : OnAgenda ε κ} (h : s.Sound) {f : Active} (hf : f ∈ s.active) :
    f.current ∉ f.rest := fun hmem =>
  Nat.lt_irrefl _ ((List.pairwise_cons.mp (h.ascending f hf)).1 f.current hmem)

end Session

section Turns

variable {ε κ : Type} {s s' : OnAgenda ε κ} {delivery : Option Delivery}

/-- A fan-out awaits no listener that it did not await before. -/
theorem Turn.awaits_of_awaits (h : Turn s s' delivery) {ticket : Ticket} {id : EndpointId}
    (hticket : ticket < s.dispatcher.nextTicket) (hawaits : s'.Awaits ticket id) :
    s.Awaits ticket id := by
  cases h with
  | idle _ bookings active =>
      refine hawaits.imp (fun ⟨b, hb, hb'⟩ => ⟨b, bookings.mem_iff.mp hb, hb'⟩) ?_
      exact fun ⟨f, hf, hf'⟩ => ⟨f, active ▸ hf, hf'⟩
  | book origins _ _ bookings active =>
      refine hawaits.imp (fun ⟨b, hb, hb'⟩ => ?_) fun ⟨f, hf, hf'⟩ => ⟨f, active ▸ hf, hf'⟩
      rcases List.mem_append.mp (bookings.mem_iff.mp hb) with hnew | hold
      · have hrange := List.mem_map_of_mem (f := Booking.ticket) hnew
        rw [booked_tickets, hb'] at hrange
        exact absurd hticket (Nat.not_lt.mpr (List.mem_range'_1.mp hrange).1)
      · exact ⟨b, hold, hb'⟩
  | fire b first later _ bookings _ active _ =>
      rcases hawaits with ⟨c, hc, hc'⟩ | ⟨f, hf, hf', hid⟩
      · exact .inl ⟨c, bookings ▸ List.mem_cons_of_mem b hc, hc'⟩
      · rw [active] at hf
        rcases List.mem_cons.mp hf with rfl | hf
        · exact .inl ⟨b, bookings ▸ List.mem_cons_self, hf'⟩
        · exact .inr ⟨f, hf, hf', hid⟩
  | miss b _ bookings _ active _ =>
      refine hawaits.imp (fun ⟨c, hc, hc'⟩ => ⟨c, bookings ▸ List.mem_cons_of_mem b hc, hc'⟩) ?_
      exact fun ⟨f, hf, hf'⟩ => ⟨f, active ▸ hf, hf'⟩
  | next f rest first passed later _ bookings before split _ _ active _ =>
      refine hawaits.imp (fun ⟨c, hc, hc'⟩ => ⟨c, bookings ▸ hc, hc'⟩) fun ⟨g, hg, hg', hid⟩ => ?_
      rw [active] at hg
      rw [before]
      rcases List.mem_cons.mp hg with rfl | hg
      · refine ⟨f, List.mem_cons_self, hg', ?_⟩
        rw [split]
        exact List.mem_append_right _ (List.mem_cons_of_mem _ hid)
      · exact ⟨g, List.mem_cons_of_mem f hg, hg', hid⟩
  | through f _ bookings before _ _ =>
      refine hawaits.imp (fun ⟨c, hc, hc'⟩ => ⟨c, bookings ▸ hc, hc'⟩) fun ⟨g, hg, hg'⟩ => ?_
      exact ⟨g, before ▸ List.mem_cons_of_mem f hg, hg'⟩

/-- A delivery is a turn of a registered listener that was awaited. -/
theorem Turn.delivered {d : Delivery} (h : Turn s s' (some d)) (hsound : s'.Sound) :
    s.Awaits d.ticket d.id ∧ ¬ s'.Awaits d.ticket d.id ∧ d.time = s'.timers.elapsed ∧
      d.id ∈ s.dispatcher.registered d.origin := by
  cases h with
  | fire b id later _ bookings registered active elapsed =>
      have hlater := hsound.current_not_mem (active ▸ List.mem_cons_self)
      exact ⟨.inl ⟨b, bookings ▸ List.mem_cons_self, rfl⟩, hsound.not_awaits active hlater,
        elapsed.symm, registered ▸ List.mem_cons_self⟩
  | next f rest id passed later _ bookings before split gone here active elapsed =>
      have hlater := hsound.current_not_mem (active ▸ List.mem_cons_self)
      refine ⟨.inr ⟨f, before ▸ List.mem_cons_self, rfl, ?_⟩, hsound.not_awaits active hlater,
        elapsed.symm, here⟩
      rw [split]
      exact List.mem_append_right _ List.mem_cons_self

theorem Turn.delivered_active {d : Delivery} (h : Turn s s' (some d)) :
    ∃ f ∈ s'.active, f.ticket = d.ticket ∧ f.origin = d.origin := by
  cases h with
  | fire b id later _ _ _ active _ => exact ⟨_, active ▸ List.mem_cons_self, rfl, rfl⟩
  | next f rest id _ later _ _ _ _ _ _ active _ =>
      exact ⟨⟨f.ticket, f.origin, id, later⟩, active ▸ List.mem_cons_self, rfl, rfl⟩

/-- At its turn a listener is notified if it is registered. The turn comes when the
fan-out comes up, or while it is under way. -/
theorem Turn.turned (h : Turn s s' delivery) {ticket : Ticket} {id : EndpointId}
    (hbefore : s.Awaits ticket id) (hafter : ¬ s'.Awaits ticket id) :
    (∃ b ∈ bookings s.timers, b.ticket = ticket ∧ s'.timers.elapsed = b.due ∧
      (id ∈ s.dispatcher.registered b.origin →
        delivery = some ⟨ticket, b.origin, id, s'.timers.elapsed⟩)) ∨
    ∃ f ∈ s.active, f.ticket = ticket ∧ s'.timers.elapsed = s.timers.elapsed ∧
      (id ∈ s.dispatcher.registered f.origin →
        delivery = some ⟨ticket, f.origin, id, s'.timers.elapsed⟩) := by
  cases h with
  | idle _ bookings active =>
      refine absurd (hbefore.imp (fun ⟨b, hb, hb'⟩ => ?_) fun ⟨f, hf, hf'⟩ => ?_) hafter
      · exact ⟨b, bookings.mem_iff.mpr hb, hb'⟩
      · exact ⟨f, active ▸ hf, hf'⟩
  | book origins _ _ bookings active =>
      refine absurd (hbefore.imp (fun ⟨b, hb, hb'⟩ => ?_) fun ⟨f, hf, hf'⟩ => ?_) hafter
      · exact ⟨b, bookings.mem_iff.mpr (List.mem_append_right _ hb), hb'⟩
      · exact ⟨f, active ▸ hf, hf'⟩
  | fire b first later _ bookings registered active elapsed =>
      -- only those who are not registered are awaited no more, save for the first
      rcases hbefore with ⟨c, hc, rfl⟩ | ⟨f, hf, hf'⟩
      · rw [bookings] at hc
        rcases List.mem_cons.mp hc with rfl | hc
        · refine .inl ⟨c, bookings ▸ List.mem_cons_self, rfl, elapsed, fun hid => ?_⟩
          rw [registered] at hid
          rcases List.mem_cons.mp hid with rfl | hid
          · rw [elapsed]
          · exact absurd (.inr ⟨_, active ▸ List.mem_cons_self, rfl, hid⟩) hafter
        · exact absurd (.inl ⟨c, hc, rfl⟩) hafter
      · exact absurd (.inr ⟨f, active ▸ List.mem_cons_of_mem _ hf, hf'⟩) hafter
  | miss b _ bookings registered active elapsed =>
      rcases hbefore with ⟨c, hc, rfl⟩ | ⟨f, hf, hf'⟩
      · rw [bookings] at hc
        rcases List.mem_cons.mp hc with rfl | hc
        · refine .inl ⟨c, bookings ▸ List.mem_cons_self, rfl, elapsed, fun hid => ?_⟩
          rw [registered] at hid
          cases hid
        · exact absurd (.inl ⟨c, hc, rfl⟩) hafter
      · exact absurd (.inr ⟨f, active ▸ hf, hf'⟩) hafter
  | next f rest first passed later _ bookings before split gone here active elapsed =>
      -- a listener of this fan-out was passed over, is the next one or is still awaited
      rcases hbefore with ⟨c, hc, hc'⟩ | ⟨g, hg, rfl, hid⟩
      · exact absurd (.inl ⟨c, bookings ▸ hc, hc'⟩) hafter
      · rw [before] at hg
        rcases List.mem_cons.mp hg with rfl | hg
        · refine .inr ⟨g, before ▸ List.mem_cons_self, rfl, elapsed, fun hregistered => ?_⟩
          rw [split] at hid
          rcases List.mem_append.mp hid with hid | hid
          · exact absurd hregistered (gone id hid)
          · rcases List.mem_cons.mp hid with rfl | hid
            · rw [elapsed]
            · exact absurd (.inr ⟨⟨g.ticket, g.origin, first, later⟩, active ▸ List.mem_cons_self,
                rfl, hid⟩) hafter
        · exact absurd (.inr ⟨g, active ▸ List.mem_cons_of_mem _ hg, rfl, hid⟩) hafter
  | through f _ bookings before gone elapsed =>
      rcases hbefore with ⟨c, hc, hc'⟩ | ⟨g, hg, rfl, hid⟩
      · exact absurd (.inl ⟨c, bookings ▸ hc, hc'⟩) hafter
      · rw [before] at hg
        rcases List.mem_cons.mp hg with rfl | hg
        · exact .inr ⟨g, before ▸ List.mem_cons_self, rfl, elapsed, fun hregistered =>
            absurd hregistered (gone id hid)⟩
        · exact absurd (.inr ⟨g, hg, rfl, hid⟩) hafter

end Turns

/-! ## Runs -/

namespace Session

variable {ε κ : Type} {s : OnAgenda ε κ}

theorem Sound.awaits_of_close (h : s.Sound) {ticket : Ticket} {id : EndpointId}
    (hawaits : s.close.1.Awaits ticket id) : s.Awaits ticket id :=
  hawaits.imp_left fun ⟨b, hb, hb'⟩ => ⟨b, h.bookings_close.subset hb, hb'⟩

theorem Sound.nextTicket_le (h : s.Sound) (deed : Deed ε κ) :
    s.dispatcher.nextTicket ≤ (s.act deed).session.dispatcher.nextTicket := by
  obtain ⟨u, _, hturn, hend⟩ := h.turn_act deed
  have hle := hturn.nextTicket_le
  rcases hend with heq | ⟨_, heq⟩ <;> rw [heq] <;> exact hle

theorem Sound.awaits_of_act (h : s.Sound) {deed : Deed ε κ} {ticket : Ticket} {id : EndpointId}
    (hticket : ticket < s.dispatcher.nextTicket)
    (hawaits : (s.act deed).session.Awaits ticket id) : s.Awaits ticket id := by
  obtain ⟨u, hu, hturn, hend⟩ := h.turn_act deed
  rcases hend with heq | ⟨_, heq⟩ <;> rw [heq] at hawaits
  · exact hturn.awaits_of_awaits hticket hawaits
  · exact hturn.awaits_of_awaits hticket (hu.awaits_of_close hawaits)

theorem Sound.delivered (h : s.Sound) {deed : Deed ε κ} {d : Delivery}
    (hd : (s.act deed).delivery? = some d) :
    s.Awaits d.ticket d.id ∧ ¬ (s.act deed).session.Awaits d.ticket d.id ∧
      d.time = (s.act deed).session.timers.elapsed ∧
      d.id ∈ s.dispatcher.registered d.origin := by
  obtain ⟨u, hu, hturn, hend⟩ := h.turn_act deed
  rw [hd] at hturn hend
  rcases hend with heq | ⟨hnone, _⟩
  · rw [heq]
    exact hturn.delivered hu
  · cases hnone

theorem Sound.delivered_active (h : s.Sound) {deed : Deed ε κ} {d : Delivery}
    (hd : (s.act deed).delivery? = some d) :
    ∃ f ∈ (s.act deed).session.active, f.ticket = d.ticket ∧ f.origin = d.origin := by
  obtain ⟨u, _, hturn, hend⟩ := h.turn_act deed
  rw [hd] at hturn hend
  rcases hend with heq | ⟨hnone, _⟩
  · rw [heq]
    exact hturn.delivered_active
  · cases hnone

/-- What a fan-out awaits no more it does not notify. -/
theorem Sound.not_delivered (h : s.Sound) {ticket : Ticket} {id : EndpointId}
    (hticket : ticket < s.dispatcher.nextTicket) (hdone : ¬ s.Awaits ticket id)
    (deeds : List (Deed ε κ)) {d : Delivery} (hd : d ∈ s.deliveries deeds) :
    ¬ (d.ticket = ticket ∧ d.id = id) := by
  induction deeds generalizing s with
  | nil => cases hd
  | cons deed rest ih =>
      rcases List.mem_append.mp hd with hhead | hrest
      · rintro ⟨rfl, rfl⟩
        exact hdone (h.delivered (Option.mem_toList.mp hhead)).1
      · refine ih (h.act deed) (Nat.lt_of_lt_of_le hticket (h.nextTicket_le deed)) ?_ hrest
        exact fun hawaits => hdone (h.awaits_of_act hticket hawaits)

theorem Sound.awaits_of_after (h : s.Sound) {ticket : Ticket} {id : EndpointId}
    (hticket : ticket < s.dispatcher.nextTicket) (deeds : List (Deed ε κ))
    (hawaits : (s.after deeds).Awaits ticket id) : s.Awaits ticket id := by
  induction deeds generalizing s with
  | nil => exact hawaits
  | cons deed rest ih =>
      refine h.awaits_of_act hticket
        (ih (h.act deed) (Nat.lt_of_lt_of_le hticket (h.nextTicket_le deed)) hawaits)

/-- What a fan-out still awaits it has not notified. -/
theorem Sound.not_delivered_before (h : s.Sound) {ticket : Ticket} {id : EndpointId}
    (hticket : ticket < s.dispatcher.nextTicket) (deeds : List (Deed ε κ))
    (hawaits : (s.after deeds).Awaits ticket id) {d : Delivery} (hd : d ∈ s.deliveries deeds) :
    ¬ (d.ticket = ticket ∧ d.id = id) := by
  induction deeds generalizing s with
  | nil => cases hd
  | cons deed rest ih =>
      have hissued := Nat.lt_of_lt_of_le hticket (h.nextTicket_le deed)
      rcases List.mem_append.mp hd with hhead | hrest
      · rintro ⟨rfl, rfl⟩
        exact (h.delivered (Option.mem_toList.mp hhead)).2.1
          ((h.act deed).awaits_of_after hissued rest hawaits)
      · exact ih (h.act deed) hissued hawaits hrest

/-- What a fan-out awaits at first and not at last it turned to in between. -/
theorem exists_turn {ticket : Ticket} {id : EndpointId} (hbefore : s.Awaits ticket id)
    (deeds : List (Deed ε κ)) (hafter : ¬ (s.after deeds).Awaits ticket id) :
    ∃ before turn after, deeds = before ++ turn :: after ∧ (s.after before).Awaits ticket id ∧
      ¬ (s.after (before ++ [turn])).Awaits ticket id := by
  induction deeds generalizing s with
  | nil => exact absurd hbefore hafter
  | cons deed rest ih =>
      by_cases hnext : (s.act deed).session.Awaits ticket id
      · obtain ⟨before, turn, after, rfl, hawaits, hdone⟩ := ih hnext hafter
        exact ⟨deed :: before, turn, after, rfl, hawaits, hdone⟩
      · exact ⟨[], deed, rest, rfl, hbefore, hnext⟩

end Session

end Cadence.Broadcast
