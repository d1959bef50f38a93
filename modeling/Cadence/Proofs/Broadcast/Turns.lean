import Cadence.Proofs.Broadcast.Punctuality

/-! # Turns

Over a whole run a fan-out turns to a listener at most once. While the dispatcher
is there, a turn comes at the time for which the fan-out was booked, and it brings
one notification if the listener is registered then, and none if it is not.
-/

namespace Cadence.Broadcast

namespace Session

variable {ε κ : Type} {s : OnAgenda ε κ}

/-! ## Registrations in a run -/

theorem Sound.registered_act (h : s.Sound) (deed : Deed ε κ) {origin : Origin} {id : EndpointId}
    (hid : id < s.dispatcher.nextEndpoint)
    (hmem : id ∈ (s.act deed).session.dispatcher.registered origin) :
    id ∈ s.dispatcher.registered origin := by
  obtain ⟨u, hstep, hend⟩ := s.leads_act deed
  have hkept : id ∈ u.dispatcher.registered origin → id ∈ s.dispatcher.registered origin := by
    intro hmem
    rcases hstep.registry_cases with ⟨hrecords, _⟩ | ⟨new, endpoint, hadd⟩ | ⟨r, hremove⟩
    · rwa [Dispatcher.registered_congr hrecords] at hmem
    · rw [hadd] at hmem
      apply (Dispatcher.mem_registered_add.mp hmem).resolve_right
      rintro ⟨_, rfl⟩
      exact Nat.lt_irrefl _ hid
    · rw [hremove] at hmem
      exact (h.registry.mem_registered_remove.mp hmem).1
  rcases hend with heq | ⟨_, heq⟩ <;> rw [heq] at hmem
  · exact hkept hmem
  · cases hmem

theorem nextEndpoint_le (s : OnAgenda ε κ) (deed : Deed ε κ) :
    s.dispatcher.nextEndpoint ≤ (s.act deed).session.dispatcher.nextEndpoint := by
  obtain ⟨u, hstep, hend⟩ := s.leads_act deed
  have hle : s.dispatcher.nextEndpoint ≤ u.dispatcher.nextEndpoint := by
    rcases hstep.registry_cases with ⟨_, hnext⟩ | ⟨new, endpoint, hadd⟩ | ⟨r, hremove⟩
    · exact Nat.le_of_eq hnext.symm
    · rw [hadd, (s.dispatcher.add_counters new endpoint).1]
      exact Nat.le_succ _
    · exact Nat.le_of_eq (hremove ▸ (s.dispatcher.remove_counters r).1.symm)
  rcases hend with heq | ⟨_, heq⟩ <;> rw [heq] <;> exact hle

/-- A registration that was given up is not made again. -/
theorem Sound.registered_after (h : s.Sound) (deeds : List (Deed ε κ)) {origin : Origin}
    {id : EndpointId} (hid : id < s.dispatcher.nextEndpoint)
    (hmem : id ∈ (s.after deeds).dispatcher.registered origin) :
    id ∈ s.dispatcher.registered origin := by
  induction deeds generalizing s with
  | nil => exact hmem
  | cons deed rest ih =>
      exact h.registered_act deed hid
        (ih (h.act deed) (Nat.lt_of_lt_of_le hid (s.nextEndpoint_le deed)) hmem)

/-! ## Deliveries in a run -/

theorem mem_deliveries {deeds : List (Deed ε κ)} {d : Delivery} :
    d ∈ s.deliveries deeds ↔ ∃ before deed after, deeds = before ++ deed :: after ∧
      ((s.after before).act deed).delivery? = some d := by
  constructor
  · intro hd
    induction deeds generalizing s with
    | nil => cases hd
    | cons deed rest ih =>
        rcases List.mem_append.mp hd with hhead | hrest
        · exact ⟨[], deed, rest, rfl, Option.mem_toList.mp hhead⟩
        · obtain ⟨before, found, after, rfl, hfound⟩ := ih hrest
          exact ⟨deed :: before, found, after, rfl, hfound⟩
  · rintro ⟨before, deed, after, rfl, hfound⟩
    rw [deliveries_append]
    apply List.mem_append_right
    apply List.mem_append_left
    exact Option.mem_toList.mpr hfound

theorem Sound.nextTicket_le_undergo (hsound : s.Sound) (h : Happening ε κ) :
    s.dispatcher.nextTicket ≤ (s.undergo h).session.dispatcher.nextTicket := by
  cases h with
  | deed deed => exact hsound.nextTicket_le deed
  | withdraw id => exact Nat.le_refl _

theorem Sound.nextTicket_le_course (hsound : s.Sound) (run : List (Happening ε κ)) :
    s.dispatcher.nextTicket ≤ (s.course run).dispatcher.nextTicket := by
  induction run generalizing s with
  | nil => exact Nat.le_refl _
  | cons h rest ih => exact Nat.le_trans (hsound.nextTicket_le_undergo h) (ih (hsound.undergo h))

theorem Sound.nextTicket_le_after (h : s.Sound) (deeds : List (Deed ε κ)) :
    s.dispatcher.nextTicket ≤ (s.after deeds).dispatcher.nextTicket :=
  s.course_deeds deeds ▸ h.nextTicket_le_course (deeds.map .deed)

theorem Sound.delivery_ticket_lt (h : s.Sound) {deeds : List (Deed ε κ)} {d : Delivery}
    (hd : d ∈ s.deliveries deeds) : d.ticket < (s.after deeds).dispatcher.nextTicket := by
  obtain ⟨before, deed, after, rfl, hfound⟩ := mem_deliveries.mp hd
  have hbefore := h.after before
  have hissued := hbefore.ticket_lt _ (hbefore.delivered hfound).1.outstanding
  rw [after_append]
  exact Nat.lt_of_lt_of_le hissued (hbefore.nextTicket_le_after (deed :: after))

/-- Whoever is notified later was registered for the same origin all along. -/
theorem Sound.registered_of_delivered (h : s.Sound) {deeds : List (Deed ε κ)} {d : Delivery}
    (hd : d ∈ s.deliveries deeds) (hid : d.id < s.dispatcher.nextEndpoint) :
    d.id ∈ s.dispatcher.registered d.origin := by
  obtain ⟨before, deed, after, rfl, hfound⟩ := mem_deliveries.mp hd
  exact h.registered_after before hid ((h.after before).delivered hfound).2.2.2

/-- Whoever is notified twice is notified by different fan-outs of one origin. -/
theorem Sound.deliveries_apart (h : s.Sound) (deeds : List (Deed ε κ)) :
    (s.deliveries deeds).Pairwise fun d e => d.id = e.id → d.ticket ≠ e.ticket ∧
      d.origin = e.origin := by
  induction deeds generalizing s with
  | nil => exact List.Pairwise.nil
  | cons deed rest ih =>
      refine List.pairwise_append.mpr ⟨?_, ih (h.act deed), ?_⟩
      · cases (s.act deed).delivery? with
        | none => exact List.Pairwise.nil
        | some d => exact List.pairwise_singleton _ _
      · intro d hd e he hid
        have hfound := Option.mem_toList.mp hd
        obtain ⟨hawaits, hdone, _, hregistered⟩ := h.delivered hfound
        have hissued := Nat.lt_of_lt_of_le (h.ticket_lt _ hawaits.outstanding)
          (h.nextTicket_le deed)
        refine ⟨fun hticket => ?_, ?_⟩
        · exact (h.act deed).not_delivered hissued hdone rest he ⟨hticket.symm, hid.symm⟩
        · have hlater : e ∈ s.deliveries (deed :: rest) := List.mem_append_right _ he
          have hold := h.registry.id_lt _ _ hregistered
          have hnow := h.registered_of_delivered hlater (hid ▸ hold)
          exact h.registry.home _ _ _ hregistered (hid ▸ hnow)

/-- A fan-out notifies listeners of the origin it was booked for. -/
theorem Sound.delivered_origin (h : s.Sound) {ticket : Ticket} {origin : Origin} {due : Span}
    (hbound : Bound ticket origin due s) {deed : Deed ε κ} {d : Delivery}
    (hd : (s.act deed).delivery? = some d) (hticket : d.ticket = ticket) : d.origin = origin := by
  obtain ⟨f, hf, hfticket, hforigin⟩ := h.delivered_active hd
  exact hforigin ▸ (h.bound_act hbound deed).active f hf (hfticket.trans hticket)

theorem Sound.delivery_origin (h : s.Sound) {ticket : Ticket} {origin : Origin} {due : Span}
    (hbound : Bound ticket origin due s) {deeds : List (Deed ε κ)} {d : Delivery}
    (hd : d ∈ s.deliveries deeds) (hticket : d.ticket = ticket) : d.origin = origin := by
  obtain ⟨before, deed, after, rfl, hfound⟩ := mem_deliveries.mp hd
  exact (h.after before).delivered_origin (h.bound_after hbound before) hfound hticket

/-- An undisturbed fan-out notifies at the time at which it was due. -/
theorem Sound.delivery_time (h : s.Sound) {ticket : Ticket} {origin : Origin} {due : Span}
    (hbound : Bound ticket origin due s) (hpunctual : Punctual ticket due s)
    {deeds : List (Deed ε κ)} (hcalm : s.Undisturbed ticket deeds) {d : Delivery}
    (hd : d ∈ s.deliveries deeds) (hticket : d.ticket = ticket) : d.time = due := by
  obtain ⟨before, deed, after, rfl, hfound⟩ := mem_deliveries.mp hd
  obtain ⟨hbefore, hdeed, -⟩ := undisturbed_append.mp hcalm
  have hthen := (h.after before).punctual_act (h.bound_after hbound before)
    (h.punctual_after hbound hpunctual before hbefore) deed hdeed
  obtain ⟨f, hf, hfticket, _⟩ := (h.after before).delivered_active hfound
  rw [((h.after before).delivered hfound).2.2.1]
  exact hthen.on_time f hf (hfticket.trans hticket)

/-! ## The turn of a listener -/

theorem alive_of_after {deeds : List (Deed ε κ)} (halive : (s.after deeds).standing ≠ .closed) :
    s.standing ≠ .closed :=
  fun hclosed => halive (closed_after hclosed deeds)

/-- A turn that comes while the dispatcher is there comes on time. -/
theorem Sound.turned (h : s.Sound) {ticket : Ticket} {origin : Origin} {due : Span}
    (hbound : Bound ticket origin due s) (hpunctual : Punctual ticket due s) {deed : Deed ε κ}
    (halive : (s.act deed).session.standing ≠ .closed) {id : EndpointId}
    (hbefore : s.Awaits ticket id) (hafter : ¬ (s.act deed).session.Awaits ticket id) :
    (s.act deed).session.timers.elapsed = due ∧
      (id ∈ s.dispatcher.registered origin →
        (s.act deed).delivery? = some ⟨ticket, origin, id, due⟩) := by
  obtain ⟨u, _, hturn, hend⟩ := h.turn_act deed
  have heq : (s.act deed).session = u := hend.resolve_right fun ⟨_, hclosed⟩ =>
    halive (hclosed ▸ rfl)
  rw [heq] at hafter ⊢
  rcases hturn.turned hbefore hafter with
    ⟨b, hb, hticket, helapsed, hdelivery⟩ | ⟨f, hf, hticket, helapsed, hdelivery⟩
  · obtain ⟨horigin, hdue⟩ := hbound.booked b hb hticket
    rw [helapsed, hdue] at hdelivery
    exact ⟨helapsed.trans hdue, horigin ▸ hdelivery⟩
  · rw [helapsed, hpunctual.on_time f hf hticket] at hdelivery
    exact ⟨helapsed.trans (hpunctual.on_time f hf hticket), hbound.active f hf hticket ▸ hdelivery⟩

/-- The notifications that the fan-out of a ticket makes to one listener. -/
def notices (s : OnAgenda ε κ) (deeds : List (Deed ε κ)) (ticket : Ticket) (id : EndpointId) :
    List Delivery :=
  (s.deliveries deeds).filter fun d => d.ticket = ticket ∧ d.id = id

theorem Sound.notices_eq_nil (h : s.Sound) {ticket : Ticket} {id : EndpointId}
    (hticket : ticket < s.dispatcher.nextTicket) (hdone : ¬ s.Awaits ticket id)
    (deeds : List (Deed ε κ)) : s.notices deeds ticket id = [] :=
  List.filter_eq_nil_iff.mpr fun _ hd => by simpa using h.not_delivered hticket hdone deeds hd

theorem notices_append (first second : List (Deed ε κ)) (ticket : Ticket) (id : EndpointId) :
    s.notices (first ++ second) ticket id =
      s.notices first ticket id ++ (s.after first).notices second ticket id := by
  unfold notices
  rw [deliveries_append, List.filter_append]

/-- A listener that was awaited and is no longer has had its turn: on time, with one
notification if it was registered then, and with none if it was not. -/
theorem Sound.exists_turn (h : s.Sound) {ticket : Ticket} {origin : Origin} {due : Span}
    (hbound : Bound ticket origin due s) (hpunctual : Punctual ticket due s) {id : EndpointId}
    (hawaits : s.Awaits ticket id) {deeds : List (Deed ε κ)} (hcalm : s.Undisturbed ticket deeds)
    (halive : (s.after deeds).standing ≠ .closed) (hdone : ¬ (s.after deeds).Awaits ticket id)
    (more : List (Deed ε κ)) :
    ∃ before turn after, deeds = before ++ turn :: after ∧
      (s.after before).Awaits ticket id ∧ ¬ (s.after (before ++ [turn])).Awaits ticket id ∧
      (s.after (before ++ [turn])).timers.elapsed = due ∧
      s.notices (deeds ++ more) ticket id =
        if id ∈ (s.after before).dispatcher.registered origin then [⟨ticket, origin, id, due⟩]
        else [] := by
  obtain ⟨before, turn, after, rfl, hwaiting, hturned⟩ := Session.exists_turn hawaits deeds hdone
  have hsound := h.after before
  have hissued := (h.bound_after hbound before).issued
  have halive' : ((s.after before).act turn).session.standing ≠ .closed := by
    rw [after_append] at halive
    exact alive_of_after halive
  have hturned' : ¬ ((s.after before).act turn).session.Awaits ticket id := by
    rwa [after_append] at hturned
  obtain ⟨helapsed, hdelivery⟩ := hsound.turned (h.bound_after hbound before)
    (h.punctual_after hbound hpunctual before (undisturbed_append.mp hcalm).1) halive' hwaiting
    hturned'
  refine ⟨before, turn, after, rfl, hwaiting, hturned, ?_, ?_⟩
  · rw [after_append]
    exact helapsed
  · -- nothing before the turn and nothing after it
    have hbefore : s.notices before ticket id = [] :=
      List.filter_eq_nil_iff.mpr fun d hd => by
        simpa using h.not_delivered_before hbound.issued before hwaiting hd
    have hafter := (hsound.act turn).notices_eq_nil
      (Nat.lt_of_lt_of_le hissued (hsound.nextTicket_le turn)) hturned' (after ++ more)
    rw [List.append_assoc, List.cons_append, notices_append, hbefore, List.nil_append]
    have hturn : (s.after before).notices (turn :: (after ++ more)) ticket id =
        ((s.after before).act turn).delivery?.toList.filter
          (fun d => d.ticket = ticket ∧ d.id = id) := by
      show List.filter _ (_ ++ _) = _
      rw [List.filter_append]
      exact (congrArg _ hafter).trans (List.append_nil _)
    rw [hturn]
    split
    next hregistered =>
      rw [hdelivery hregistered]
      simp
    next hgone =>
      apply List.filter_eq_nil_iff.mpr
      intro d hd
      have hfound := Option.mem_toList.mp hd
      simp only [decide_eq_true_eq]
      rintro ⟨hticket, rfl⟩
      have horigin := hsound.delivered_origin (h.bound_after hbound before) hfound hticket
      exact hgone (horigin ▸ (hsound.delivered hfound).2.2.2)

end Session

end Cadence.Broadcast
