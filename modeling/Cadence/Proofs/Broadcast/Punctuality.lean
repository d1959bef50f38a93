import Cadence.Proofs.Broadcast.Deliveries

/-! # Punctuality

A fan-out comes up at the time for which it was booked. If nobody starts a drive
while it is under way, the time stands still until its last listener was notified,
and when a drive beyond that time has ended the fan-out is over.
-/

namespace Cadence.Broadcast

section Steps

variable {ε κ : Type} {travels : Prop} {s s' : OnAgenda ε κ} {delivery : Option Delivery}

/-- A fan-out under way was under way before with no fewer listeners left, or comes up
in time. -/
theorem Turn.active_cases (h : Turn s s' delivery) {f : Active} (hf : f ∈ s'.active) :
    (∃ g ∈ s.active, g.ticket = f.ticket ∧ g.origin = f.origin ∧ f.rest ⊆ g.rest) ∨
      ∃ b ∈ bookings s.timers, b.ticket = f.ticket ∧ b.origin = f.origin ∧
        s'.timers.elapsed = b.due := by
  cases h with
  | idle _ _ active => exact .inl ⟨f, active ▸ hf, rfl, rfl, List.Subset.refl _⟩
  | book _ _ _ _ active => exact .inl ⟨f, active ▸ hf, rfl, rfl, List.Subset.refl _⟩
  | fire b id later _ bookings _ active elapsed =>
      rw [active] at hf
      rcases List.mem_cons.mp hf with rfl | hf
      · exact .inr ⟨b, bookings ▸ List.mem_cons_self, rfl, rfl, elapsed⟩
      · exact .inl ⟨f, hf, rfl, rfl, List.Subset.refl _⟩
  | miss _ _ _ _ active _ => exact .inl ⟨f, active ▸ hf, rfl, rfl, List.Subset.refl _⟩
  | next g rest id passed later _ _ before split _ _ active _ =>
      rw [active] at hf
      rw [before]
      rcases List.mem_cons.mp hf with rfl | hf
      · refine .inl ⟨g, List.mem_cons_self, rfl, rfl, ?_⟩
        rw [split]
        exact fun x hx => List.mem_append_right _ (List.mem_cons_of_mem id hx)
      · exact .inl ⟨f, List.mem_cons_of_mem g hf, rfl, rfl, List.Subset.refl _⟩
  | through g _ _ before _ _ =>
      exact .inl ⟨f, before ▸ List.mem_cons_of_mem g hf, rfl, rfl, List.Subset.refl _⟩

/-- A booking was there before, or has one of the next tickets. -/
theorem Turn.booking_cases (h : Turn s s' delivery) {b : Booking} (hb : b ∈ bookings s'.timers) :
    b ∈ bookings s.timers ∨ s.dispatcher.nextTicket ≤ b.ticket := by
  cases h with
  | idle _ bookings _ => exact .inl (bookings.mem_iff.mp hb)
  | book origins _ _ bookings _ =>
      rcases List.mem_append.mp (bookings.mem_iff.mp hb) with hnew | hold
      · have hrange := List.mem_map_of_mem (f := Booking.ticket) hnew
        rw [booked_tickets] at hrange
        exact .inr (List.mem_range'_1.mp hrange).1
      · exact .inl hold
  | fire c _ _ _ bookings _ _ _ => exact .inl (bookings ▸ List.mem_cons_of_mem c hb)
  | miss c _ bookings _ _ _ => exact .inl (bookings ▸ List.mem_cons_of_mem c hb)
  | next _ _ _ _ _ _ bookings _ _ _ _ _ _ => exact .inl (bookings ▸ hb)
  | through _ _ bookings _ _ _ => exact .inl (bookings ▸ hb)

/-- A ticket that was handed out belongs to one origin and is due at one time. -/
structure Bound (ticket : Ticket) (origin : Origin) (due : Span) (s : OnAgenda ε κ) : Prop where
  issued : ticket < s.dispatcher.nextTicket
  booked : ∀ b ∈ bookings s.timers, b.ticket = ticket → b.origin = origin ∧ b.due = due
  active : ∀ f ∈ s.active, f.ticket = ticket → f.origin = origin

variable {ticket : Ticket} {origin : Origin} {due : Span}

theorem Bound.turn (h : Bound ticket origin due s) (hturn : Turn s s' delivery) :
    Bound ticket origin due s' where
  issued := Nat.lt_of_lt_of_le h.issued hturn.nextTicket_le
  booked b hb hticket := by
    rcases hturn.booking_cases hb with hb | hnew
    · exact h.booked b hb hticket
    · exact absurd (hticket ▸ h.issued) (Nat.not_lt.mpr hnew)
  active f hf hticket := by
    rcases hturn.active_cases hf with
      ⟨g, hg, hgticket, horigin, _⟩ | ⟨b, hb, hbticket, horigin, _⟩
    · exact horigin ▸ h.active g hg (hgticket.trans hticket)
    · exact horigin ▸ (h.booked b hb (hbticket.trans hticket)).1

/-- No drive was started above the fan-out of a ticket, and while it is under way
the time is the time at which it was due. -/
structure Punctual (ticket : Ticket) (due : Span) (s : OnAgenda ε κ) : Prop where
  clear : s.frames.Pairwise fun frame below =>
    (∃ f, below.active? = some f ∧ f.ticket = ticket) → ∀ drive, frame ≠ .travelling drive
  on_time : ∀ f ∈ s.active, f.ticket = ticket → s.timers.elapsed = due

/-- With a drive on top the fan-out is not under way. -/
theorem Punctual.not_active (h : Punctual ticket due s) {drive : Agenda.Drive}
    {rest : List (Frame Agenda.Drive)} (hframes : s.frames = .travelling drive :: rest)
    {f : Active} (hf : f ∈ s.active) : f.ticket ≠ ticket := by
  intro hticket
  have hclear := h.clear
  unfold Session.active at hf
  rw [hframes] at hclear hf
  obtain ⟨frame, hframe, hactive⟩ := List.mem_filterMap.mp hf
  rcases List.mem_cons.mp hframe with rfl | hframe
  · cases hactive
  · exact (List.pairwise_cons.mp hclear).1 frame hframe ⟨f, hactive, hticket⟩ drive rfl

theorem Punctual.elapsed_of_restack (h : Punctual ticket due s) (hstack : Restack travels s s')
    {f : Active} (hf : f ∈ s.active) (hticket : f.ticket = ticket) :
    s'.timers.elapsed = s.timers.elapsed := by
  cases hstack with
  | calls _ _ _ _ _ _ elapsed => exact elapsed
  | depart _ _ _ _ elapsed => exact elapsed
  | turn drive new rest before _ _ _ => exact absurd hticket (h.not_active before hf)

theorem Punctual.step (h : Punctual ticket due s) (hbound : Bound ticket origin due s)
    (hstack : Restack travels s s') (hturn : Turn s s' delivery)
    (hcalm : travels → ∀ f ∈ s.active, f.ticket ≠ ticket) : Punctual ticket due s' where
  clear := by
    have hclear := h.clear
    cases hstack with
    | calls old new rest before frames still _ =>
        rw [before] at hclear
        rw [frames]
        refine List.pairwise_append.mpr ⟨?_, (List.pairwise_append.mp hclear).2.1, ?_⟩
        · exact List.pairwise_of_forall_mem_list fun frame hframe _ _ _ drive heq =>
            still drive (heq ▸ hframe)
        · exact fun frame hframe _ _ _ drive heq => still drive (heq ▸ hframe)
    | depart asked drive _ frames _ =>
        rw [frames]
        refine List.pairwise_cons.mpr ⟨fun below hbelow hfan => ?_, hclear⟩
        obtain ⟨f, hf, hticket⟩ := hfan
        exact absurd hticket (hcalm asked f (List.mem_filterMap.mpr ⟨below, hbelow, hf⟩))
    | turn drive new rest before frames _ above =>
        -- a drive that takes a turn lies above no fan-out of this ticket
        rw [before] at hclear
        rw [frames]
        obtain ⟨hdrive, hrest⟩ := List.pairwise_cons.mp hclear
        refine List.pairwise_append.mpr ⟨above.imp ?_, hrest, ?_⟩
        · rintro frame below hnone ⟨f, hf, _⟩
          exact hnone (by simp [hf])
        · rintro frame _ below hbelow hfan
          exact absurd rfl (hdrive below hbelow hfan drive)
  on_time f hf hticket := by
    rcases hturn.active_cases hf with ⟨g, hg, hgticket, _⟩ | ⟨b, hb, hbticket, _, helapsed⟩
    · rw [h.elapsed_of_restack hstack hg (hgticket.trans hticket)]
      exact h.on_time g hg (hgticket.trans hticket)
    · -- it has just come up, at the deadline for which it was booked
      rw [helapsed]
      exact (hbound.booked b hb (hbticket.trans hticket)).2

end Steps

/-! ## Runs -/

namespace Session

variable {ε κ : Type} {s : OnAgenda ε κ} {ticket : Ticket} {origin : Origin} {due : Span}

theorem Sound.bound_act (h : s.Sound) (hbound : Bound ticket origin due s) (deed : Deed ε κ) :
    Bound ticket origin due (s.act deed).session := by
  obtain ⟨u, hu, hturn, hend⟩ := h.turn_act deed
  have hnext := hbound.turn hturn
  rcases hend with heq | ⟨_, heq⟩ <;> rw [heq]
  · exact hnext
  · exact ⟨hnext.issued, fun b hb => hnext.booked b (hu.bookings_close.subset hb), hnext.active⟩

theorem Sound.punctual_act (h : s.Sound) (hbound : Bound ticket origin due s)
    (hpunctual : Punctual ticket due s) (deed : Deed ε κ)
    (hcalm : ∀ route t, deed = .move route (.travel t) → ∀ f ∈ s.active, f.ticket ≠ ticket) :
    Punctual ticket due (s.act deed).session := by
  obtain ⟨u, hstep, hend⟩ := s.leads_act deed
  have hnext := hpunctual.step hbound hstep.restack (hstep.turn h.agenda)
    fun ⟨route, t, hdeed⟩ => hcalm route t hdeed
  rcases hend with heq | ⟨_, heq⟩ <;> rw [heq]
  · exact hnext
  · have helapsed := (sound_foldl_cancel (h.step hstep).agenda u.dispatcher.inFlight).2.2
    exact ⟨hnext.clear, fun f hf hticket => helapsed.trans (hnext.on_time f hf hticket)⟩

/-- In these deeds no drive starts while the fan-out of a ticket is under way. -/
def Undisturbed (ticket : Ticket) (s : OnAgenda ε κ) : List (Deed ε κ) → Prop
  | [] => True
  | deed :: rest =>
      (∀ route t, deed = .move route (.travel t) → ∀ f ∈ s.active, f.ticket ≠ ticket) ∧
        (s.act deed).session.Undisturbed ticket rest

theorem undisturbed_append {first second : List (Deed ε κ)} :
    s.Undisturbed ticket (first ++ second) ↔
      s.Undisturbed ticket first ∧ (s.after first).Undisturbed ticket second := by
  induction first generalizing s with
  | nil => simp [Undisturbed, after]
  | cons deed rest ih => simp [Undisturbed, ih, after_cons, and_assoc]

theorem Sound.bound_after (h : s.Sound) (hbound : Bound ticket origin due s)
    (deeds : List (Deed ε κ)) : Bound ticket origin due (s.after deeds) := by
  induction deeds generalizing s with
  | nil => exact hbound
  | cons deed rest ih => exact ih (h.act deed) (h.bound_act hbound deed)

theorem Sound.punctual_after (h : s.Sound) (hbound : Bound ticket origin due s)
    (hpunctual : Punctual ticket due s) (deeds : List (Deed ε κ))
    (hcalm : s.Undisturbed ticket deeds) : Punctual ticket due (s.after deeds) := by
  induction deeds generalizing s with
  | nil => exact hpunctual
  | cons deed rest ih =>
      exact ih (h.act deed) (h.bound_act hbound deed) (h.punctual_act hbound hpunctual deed hcalm.1)
        hcalm.2

/-! ## The dispatcher's end -/

theorem closed_answer (h : s.standing = .closed) (notes : List Note) (answer : Answer) :
    (s.answer notes answer : Result ε κ).session.standing = .closed := by
  unfold Session.answer
  split
  next => rfl
  next => exact h

theorem closed_fan (h : s.standing = .closed) (notes : List Note) (entrance : Entrance)
    (origin : Origin) (ids : List EndpointId) :
    (s.fan notes entrance origin ids : Result ε κ).session.standing = .closed := by
  unfold fan
  split
  next => exact h
  next =>
    cases entrance with
    | request => exact closed_answer h notes .done
    | task _ => exact h

theorem closed_proceed (h : s.standing = .closed) :
    (s.proceed : Result ε κ).session.standing = .closed := by
  unfold proceed
  split
  next drive rest hframes =>
    split
    next task events timers drive hturn =>
      cases task with
      | fanOut origin ticket =>
          refine closed_fan ?_ _ _ _ _
          exact h
      | posted work => exact h
    next => exact h
  next => exact h

/-- A dispatcher that has gone away does not come back. -/
theorem closed_act (h : s.standing = .closed) (deed : Deed ε κ) :
    (s.act deed).session.standing = .closed := by
  cases deed with
  | post delay work => exact h
  | move route m =>
      unfold act perform
      dsimp only
      split
      next => exact h
      next hopen =>
        cases m with
        | disconnect r => exact h
        | letGo =>
            show (letGo s).session.standing = _
            unfold letGo
            rw [if_pos (by simp [h])]
            exact h
        | travel t =>
            show (travel s t).session.standing = _
            unfold travel
            split <;> exact h
        | resume =>
            show (resume s).session.standing = _
            unfold resume
            split
            next =>
              refine closed_fan ?_ _ _ _ _
              exact h
            next =>
              refine closed_answer ?_ _ _
              exact h
            next => exact h
            next => exact h
        | proceed => exact closed_proceed h
        -- the other moves are refused without a dispatcher
        | _ => exact absurd ⟨rfl, by simp [h]⟩ hopen

theorem closed_undergo (hclosed : s.standing = .closed) (h : Happening ε κ) :
    (s.undergo h).session.standing = .closed := by
  cases h with
  | deed deed => exact closed_act hclosed deed
  | withdraw id => exact hclosed

theorem closed_course (hclosed : s.standing = .closed) (run : List (Happening ε κ)) :
    (s.course run).standing = .closed := by
  induction run generalizing s with
  | nil => exact hclosed
  | cons h rest ih => exact ih (closed_undergo hclosed h)

theorem closed_after (h : s.standing = .closed) (deeds : List (Deed ε κ)) :
    (s.after deeds).standing = .closed :=
  s.course_deeds deeds ▸ closed_course h (deeds.map .deed)

theorem alive_of_undergo {h : Happening ε κ} (halive : (s.undergo h).session.standing ≠ .closed) :
    s.standing ≠ .closed :=
  fun hclosed => halive (closed_undergo hclosed h)

end Session

end Cadence.Broadcast
