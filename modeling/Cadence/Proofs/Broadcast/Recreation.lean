import Cadence.Proofs.Broadcast.Dispatches

/-! # Records that are made anew

A scheduled fan-out is tied to its origin and not to the record for which it was
scheduled. If that record is destroyed and the origin has none when the fan-out
comes up, then the fan-out is dropped. If the origin was registered again in the
meantime, then the fan-out runs over the new record, after the delay of the old.
-/

namespace Cadence.Broadcast

/-! ## The delay of a record -/

/-- A record that is there before and after a step keeps its delay. -/
theorem Step.delay_eq {ε κ : Type} {travels : Prop} {s s' : OnAgenda ε κ}
    {notification : Option Notification} (h : Step travels s s' notification) (hsound : s.Sound)
    {origin : Origin} {record record' : Record ε}
    (hbefore : s.dispatcher.record? origin = some record)
    (hafter : s'.dispatcher.record? origin = some record') : record'.delay = record.delay := by
  rcases h.registry_cases with ⟨hrecords, _⟩ | ⟨new, endpoint, hadd⟩ | ⟨r, hremove⟩
  · rw [Dispatcher.record?_congr hrecords, hbefore] at hafter
    cases hafter
    rfl
  · obtain ⟨delay, hrecord⟩ := s.dispatcher.record?_add new endpoint
    rw [hadd, hrecord origin] at hafter
    split at hafter
    next heq =>
      subst heq
      rw [hbefore] at hafter
      cases hafter
      rfl
    next =>
      rw [hbefore] at hafter
      cases hafter
      rfl
  · rw [hremove] at hafter
    obtain ⟨_, found, hfound, hdelay⟩ := hsound.registry.record?_of_remove hafter
    rw [hbefore] at hfound
    cases hfound
    exact hdelay.symm

namespace Session

variable {ε κ : Type} {s : OnAgenda ε κ} {origin : Origin}

/-- At some point in the course of these deeds an origin has no record. -/
def LosesRecord (s : OnAgenda ε κ) (origin : Origin) (deeds : List (Deed ε κ)) : Prop :=
  ∃ before, before <+: deeds ∧ (s.after before).dispatcher.record? origin = none

theorem losesRecord_cons {deed : Deed ε κ} {rest : List (Deed ε κ)}
    (h : (s.act deed).session.LosesRecord origin rest) : s.LosesRecord origin (deed :: rest) := by
  obtain ⟨before, hprefix, hnone⟩ := h
  exact ⟨deed :: before, List.cons_prefix_cons.mpr ⟨rfl, hprefix⟩, hnone⟩

theorem Sound.delay_act (h : s.Sound) (deed : Deed ε κ) {record record' : Record ε}
    (hbefore : s.dispatcher.record? origin = some record)
    (hafter : (s.act deed).session.dispatcher.record? origin = some record') :
    record'.delay = record.delay := by
  obtain ⟨u, hstep, hend⟩ := s.leads_act deed
  rcases hend with heq | ⟨_, heq⟩ <;> rw [heq] at hafter
  · exact hstep.delay_eq h hbefore hafter
  · cases hafter

/-- A record that is there all the time keeps its delay. -/
theorem Sound.delay_after (h : s.Sound) {deeds : List (Deed ε κ)}
    (hkept : ¬ s.LosesRecord origin deeds) {record : Record ε}
    (hbefore : s.dispatcher.record? origin = some record) :
    ∃ found, (s.after deeds).dispatcher.record? origin = some found ∧
      found.delay = record.delay := by
  induction deeds generalizing s record with
  | nil => exact ⟨record, hbefore, rfl⟩
  | cons deed rest ih =>
      cases hnext : (s.act deed).session.dispatcher.record? origin with
      | none => exact absurd ⟨[deed], ⟨rest, rfl⟩, hnext⟩ hkept
      | some next =>
          obtain ⟨found, hfound, hdelay⟩ :=
            ih (h.act deed) (fun hlost => hkept (losesRecord_cons hlost)) hnext
          exact ⟨found, hfound, hdelay.trans (h.delay_act deed hbefore hnext)⟩

theorem nextEndpoint_le_after (s : OnAgenda ε κ) (deeds : List (Deed ε κ)) :
    s.dispatcher.nextEndpoint ≤ (s.after deeds).dispatcher.nextEndpoint := by
  induction deeds generalizing s with
  | nil => exact Nat.le_refl _
  | cons deed rest ih => exact Nat.le_trans (s.nextEndpoint_le deed) (ih _)

/-- As long as a listener stays registered, its record is not lost. -/
theorem Sound.not_losesRecord (h : s.Sound) {deeds : List (Deed ε κ)} {id : EndpointId}
    (hfirst : id ∈ s.dispatcher.registered origin)
    (hlast : id ∈ (s.after deeds).dispatcher.registered origin) :
    ¬ s.LosesRecord origin deeds := by
  rintro ⟨before, ⟨after, rfl⟩, hnone⟩
  have hissued := Nat.lt_of_lt_of_le (h.registry.id_lt _ _ hfirst) (s.nextEndpoint_le_after before)
  rw [after_append] at hlast
  have hthen := (h.after before).registered_after after hissued hlast
  rw [Dispatcher.registered_of_none hnone] at hthen
  cases hthen

/-! ## A fan-out that comes up -/

/-- The fan-out of a ticket comes up in a deed. -/
def Fires (s : OnAgenda ε κ) (deed : Deed ε κ) (ticket : Ticket) (origin : Origin) : Prop :=
  ∃ route drive rest e b, deed = .move route .proceed ∧ s.frames = .travelling drive :: rest ∧
    s.timers.popDue drive.limit = some (e, b) ∧ e.task = .fanOut origin ticket

/-- The session in which a fan-out begins when it comes up. -/
def opened (s : OnAgenda ε κ) (drive : Agenda.Drive) (rest : List (Frame Agenda.Drive))
    (e : Entry (Errand κ)) (b : Agenda (Errand κ)) : OnAgenda ε κ :=
  { s with
    timers := b.started e
    frames := .travelling { drive with ran := drive.ran + 1 } :: rest }

variable {deed : Deed ε κ} {ticket : Ticket}

theorem Fires.act_eq (h : s.Fires deed ticket origin) :
    ∃ drive rest e b notes, s.frames = .travelling drive :: rest ∧
      s.timers.popDue drive.limit = some (e, b) ∧
      booking? e = some ⟨ticket, origin, e.key.deadline⟩ ∧
      s.act deed = (s.opened drive rest e b).fanOut notes (.task ticket) origin := by
  obtain ⟨route, drive, rest, e, b, rfl, hframes, hpop, htask⟩ := h
  have hbooking : booking? e = some ⟨ticket, origin, e.key.deadline⟩ := by
    unfold booking?
    rw [htask]
  have hturn : Timeline.turn s.timers drive = _ := Agenda.turn_of_popDue_eq_some hpop
  have hact : ∃ notes, (s.proceed : Result ε κ) =
      (s.opened drive rest e b).fanOut notes (.task ticket) origin := by
    unfold proceed
    rw [hframes]
    dsimp only
    rw [hturn, htask]
    exact ⟨_, rfl⟩
  obtain ⟨notes, hact⟩ := hact
  exact ⟨drive, rest, e, b, notes, hframes, hpop, hbooking, hact⟩

theorem active_opened {drive : Agenda.Drive} {rest : List (Frame Agenda.Drive)}
    (hframes : s.frames = .travelling drive :: rest) (e : Entry (Errand κ))
    (b : Agenda (Errand κ)) : (s.opened drive rest e b).active = s.active := by
  unfold active
  rw [hframes]
  rfl

/-- Without a record the fan-out is dropped. -/
theorem Fires.dropped (h : s.Fires deed ticket origin)
    (hnone : s.dispatcher.record? origin = none) :
    (s.act deed).delivery? = none ∧ (s.act deed).session.active = s.active ∧
      (s.act deed).session.dispatcher.stats =
        { s.dispatcher.stats with droppedFanouts := s.dispatcher.stats.droppedFanouts + 1 } := by
  obtain ⟨drive, rest, e, b, notes, hframes, _, _, hact⟩ := h.act_eq
  obtain ⟨logged, hfan⟩ := (s.opened drive rest e b).fanOut_of_nil (κ := κ) notes (.task ticket)
    (Dispatcher.registered_of_none hnone)
  rw [hact, hfan]
  refine ⟨rfl, active_opened hframes e b, ?_⟩
  exact (s.dispatcher.startFanOut_stats origin ticket).trans (if_pos hnone)

/-- With a record the fan-out turns to the first listener of this record. -/
theorem Sound.fired (hsound : s.Sound) (h : s.Fires deed ticket origin) {found : Record ε}
    (hfound : s.dispatcher.record? origin = some found) :
    ∃ id later, found.listeners.map Prod.fst = id :: later ∧
      (s.act deed).delivery? = some ⟨ticket, origin, id, (s.act deed).session.timers.elapsed⟩ ∧
      (s.act deed).session.active = ⟨ticket, origin, id, later⟩ :: s.active ∧
      (s.act deed).session.dispatcher.stats =
        { s.dispatcher.stats with
          fanouts := s.dispatcher.stats.fanouts + 1
          notifications := s.dispatcher.stats.notifications + 1 } := by
  obtain ⟨drive, rest, e, b, notes, hframes, _, _, hact⟩ := h.act_eq
  have hids := Dispatcher.registered_of_record? hfound
  cases hlisteners : found.listeners.map Prod.fst with
  | nil =>
      -- a record goes with its last listener
      have hpeopled := hsound.registry.peopled origin found hfound
      exact absurd (List.map_eq_nil_iff.mp hlisteners) hpeopled
  | cons id later =>
      rw [hlisteners] at hids
      obtain ⟨endpoint, logged, hfan⟩ := (s.opened drive rest e b).fanOut_of_cons (κ := κ) notes
        (.task ticket) hids
      rw [hact, hfan]
      refine ⟨id, later, rfl, rfl, congrArg (_ :: ·) (active_opened hframes e b), ?_⟩
      have hstats := (s.dispatcher.startFanOut_stats origin ticket).trans
        (if_neg (by simp [hfound]))
      show Stats.mk _ _ _ _ _ = _
      rw [show (s.opened drive rest e b).dispatcher = s.dispatcher from rfl]
      unfold Entrance.ticket?
      dsimp only
      rw [hstats]

/-- A fan-out that comes up is booked no more. -/
theorem Sound.bookings_of_fires (hsound : s.Sound) (h : s.Fires deed ticket origin) :
    bookings s.timers =
      ⟨ticket, origin, (s.act deed).session.timers.elapsed⟩ ::
        bookings (s.act deed).session.timers := by
  obtain ⟨drive, rest, e, b, notes, hframes, hpop, hbooking, hact⟩ := h.act_eq
  have htimers : (s.act deed).session.timers = b.started e := by
    rw [hact]
    cases hids : (s.opened drive rest e b).dispatcher.registered origin with
    | nil =>
        obtain ⟨logged, hfan⟩ := (s.opened drive rest e b).fanOut_of_nil (κ := κ) notes
          (.task ticket) hids
        rw [hfan]
        rfl
    | cons id later =>
        obtain ⟨endpoint, logged, hfan⟩ := (s.opened drive rest e b).fanOut_of_cons (κ := κ) notes
          (.task ticket) hids
        rw [hfan]
        rfl
  rw [htimers, bookings_of_popDue hpop, hbooking, hsound.agenda.started_elapsed hpop]
  rfl

/-! ## The listeners of a fan-out that has come up -/

/-- The fan-out of a ticket has come up, and only these listeners may be left to it. -/
structure Chosen (ticket : Ticket) (ids : List EndpointId) (s : OnAgenda ε κ) : Prop where
  issued : ticket < s.dispatcher.nextTicket
  unbooked : ∀ b ∈ bookings s.timers, b.ticket ≠ ticket
  rest : ∀ f ∈ s.active, f.ticket = ticket → f.rest ⊆ ids

variable {ids : List EndpointId}

theorem Chosen.turn {s' : OnAgenda ε κ} {delivery : Option Delivery} (h : Chosen ticket ids s)
    (hturn : Turn s s' delivery) : Chosen ticket ids s' where
  issued := Nat.lt_of_lt_of_le h.issued hturn.nextTicket_le
  unbooked b hb hticket := by
    rcases hturn.booking_cases hb with hold | hnew
    · exact h.unbooked b hold hticket
    · exact Nat.not_lt.mpr hnew (hticket ▸ h.issued)
  rest f hf hticket := by
    rcases hturn.active_cases hf with ⟨g, hg, hgticket, _, hrest⟩ | ⟨b, hb, hbticket, _⟩
    · exact List.Subset.trans hrest (h.rest g hg (hgticket.trans hticket))
    · exact absurd (hbticket.trans hticket) (h.unbooked b hb)

theorem Chosen.mem_of_awaits (h : Chosen ticket ids s) {id : EndpointId}
    (hawaits : s.Awaits ticket id) : id ∈ ids := by
  rcases hawaits with ⟨b, hb, hticket⟩ | ⟨f, hf, hticket, hid⟩
  · exact absurd hticket (h.unbooked b hb)
  · exact h.rest f hf hticket hid

theorem Sound.chosen_act (h : s.Sound) (hchosen : Chosen ticket ids s) (deed : Deed ε κ) :
    Chosen ticket ids (s.act deed).session := by
  obtain ⟨u, hu, hturn, hend⟩ := h.turn_act deed
  have hnext := hchosen.turn hturn
  rcases hend with heq | ⟨_, heq⟩ <;> rw [heq]
  · exact hnext
  · exact ⟨hnext.issued, fun b hb => hnext.unbooked b (hu.bookings_close.subset hb), hnext.rest⟩

/-- Later notifications of the fan-out go to these listeners. -/
theorem Sound.mem_of_chosen (h : s.Sound) (hchosen : Chosen ticket ids s)
    {deeds : List (Deed ε κ)} {d : Delivery} (hd : d ∈ s.deliveries deeds)
    (hticket : d.ticket = ticket) : d.id ∈ ids := by
  induction deeds generalizing s with
  | nil => cases hd
  | cons deed rest ih =>
      rcases List.mem_append.mp hd with hhead | hrest
      · have hawaits := (h.delivered (Option.mem_toList.mp hhead)).1
        exact hchosen.mem_of_awaits (hticket ▸ hawaits)
      · exact ih (h.act deed) (h.chosen_act hchosen deed) hrest

/-- A fan-out that comes up chooses the listeners that are registered then. -/
theorem Sound.chosen_of_fires (hsound : s.Sound) (h : s.Fires deed ticket origin) :
    Chosen ticket (s.dispatcher.registered origin) (s.act deed).session := by
  have hbookings := hsound.bookings_of_fires h
  have hnodup := hsound.tickets_nodup
  have hissued : ticket < s.dispatcher.nextTicket := by
    apply hsound.ticket_lt ticket
    unfold outstanding
    rw [hbookings]
    exact List.mem_cons_self
  unfold outstanding at hnodup
  rw [hbookings, List.map_cons, List.cons_append] at hnodup
  have hfresh := (List.nodup_cons.mp hnodup).1
  -- a ticket that is booked is not under way
  have hidle : ∀ f ∈ s.active, f.ticket ≠ ticket := fun f hf hticket =>
    hfresh (List.mem_append_right _ (hticket ▸ List.mem_map_of_mem hf))
  refine ⟨Nat.lt_of_lt_of_le hissued (hsound.nextTicket_le deed), fun b hb hticket => ?_,
    fun f hf hticket => ?_⟩
  · have hbooked := List.mem_map_of_mem (f := Booking.ticket) hb
    exact hfresh (List.mem_append_left _ (hticket ▸ hbooked))
  · cases hrecord : s.dispatcher.record? origin with
    | none =>
        rw [(h.dropped hrecord).2.1] at hf
        exact absurd hticket (hidle f hf)
    | some found =>
        obtain ⟨id, later, hids, _, hactive, _⟩ := hsound.fired h hrecord
        rw [Dispatcher.registered_of_record? hrecord, hids]
        rw [hactive] at hf
        rcases List.mem_cons.mp hf with rfl | hf
        · exact List.subset_cons_self id later
        · exact absurd hticket (hidle f hf)

/-- A fan-out notifies nobody before it comes up. -/
theorem Sound.not_delivered_of_fires (h : s.Sound) (hissued : ticket < s.dispatcher.nextTicket)
    {deeds : List (Deed ε κ)} (hfires : (s.after deeds).Fires deed ticket origin) {d : Delivery}
    (hd : d ∈ s.deliveries deeds) : d.ticket ≠ ticket := by
  have hbookings := (h.after deeds).bookings_of_fires hfires
  have hawaits : (s.after deeds).Awaits ticket d.id :=
    .inl ⟨_, hbookings ▸ List.mem_cons_self, rfl⟩
  exact fun hticket => h.not_delivered_before hissued deeds hawaits hd ⟨hticket, rfl⟩

/-- A fan-out that is dropped notifies nobody. -/
theorem Sound.not_delivered_of_dropped (h : s.Sound) (hissued : ticket < s.dispatcher.nextTicket)
    {before : List (Deed ε κ)} (hfires : (s.after before).Fires deed ticket origin)
    (hnone : (s.after before).dispatcher.record? origin = none) (after : List (Deed ε κ))
    {d : Delivery} (hd : d ∈ s.deliveries (before ++ deed :: after)) : d.ticket ≠ ticket := by
  rw [deliveries_append] at hd
  rcases List.mem_append.mp hd with hd | hd
  · exact h.not_delivered_of_fires hissued hfires hd
  · have hsound := h.after before
    have hchosen := hsound.chosen_of_fires hfires
    rw [Dispatcher.registered_of_none hnone] at hchosen
    rcases List.mem_append.mp hd with hhead | hrest
    · rw [(hfires.dropped hnone).1] at hhead
      cases hhead
    · intro hticket
      have hnobody := (hsound.act deed).mem_of_chosen hchosen hrest hticket
      cases hnobody

/-- Whom a fan-out notifies has been in the same record since it came up. -/
theorem Sound.delay_of_delivered (h : s.Sound) (hfires : s.Fires deed ticket origin)
    {first : Record ε} (hfirst : s.dispatcher.record? origin = some first)
    {earlier : List (Deed ε κ)} {last : Deed ε κ} {after rest : List (Deed ε κ)}
    (hsplit : deed :: after = earlier ++ last :: rest) {d : Delivery}
    (hd : ((s.after earlier).act last).delivery? = some d) (hticket : d.ticket = ticket)
    (horigin : d.origin = origin) :
    ∃ found, (s.after earlier).dispatcher.record? origin = some found ∧
      d.id ∈ found.listeners.map Prod.fst ∧ found.delay = first.delay := by
  have hregistered : d.id ∈ (s.after earlier).dispatcher.registered origin :=
    horigin ▸ ((h.after earlier).delivered hd).2.2.2
  have hchosen : d.id ∈ s.dispatcher.registered origin := by
    cases earlier with
    | nil => exact hregistered
    | cons x earlier =>
        obtain ⟨rfl, rfl⟩ := List.cons.inj hsplit
        have hlater := mem_deliveries.mpr ⟨earlier, last, rest, rfl, hd⟩
        exact (h.act deed).mem_of_chosen (h.chosen_of_fires hfires) hlater hticket
  obtain ⟨found, hfound, hdelay⟩ := h.delay_after (h.not_losesRecord hchosen hregistered) hfirst
  rw [Dispatcher.registered_of_record? hfound] at hregistered
  exact ⟨found, hfound, hregistered, hdelay⟩

theorem Sound.fires_before_delivery (h : s.Sound) (hissued : ticket < s.dispatcher.nextTicket)
    {before : List (Deed ε κ)} (hfires : (s.after before).Fires deed ticket origin)
    {earlier : List (Deed ε κ)} {last : Deed ε κ} {after rest : List (Deed ε κ)}
    (hsplit : before ++ deed :: after = earlier ++ last :: rest) {d : Delivery}
    (hd : ((s.after earlier).act last).delivery? = some d) (hticket : d.ticket = ticket) :
    ∃ more, earlier = before ++ more ∧ deed :: after = more ++ last :: rest := by
  rcases List.append_eq_append_iff.mp hsplit with ⟨more, hearlier, hmore⟩ | ⟨more, hbefore, hmore⟩
  · exact ⟨more, hearlier, hmore⟩
  · cases more with
    | nil => exact ⟨[], by simpa using hbefore.symm, hmore.symm⟩
    | cons x more =>
        obtain ⟨rfl, rfl⟩ := List.cons.inj hmore
        have hearly := mem_deliveries.mpr ⟨earlier, last, more, hbefore, hd⟩
        exact absurd hticket (h.not_delivered_of_fires hissued hfires hearly)

/-- A notification comes from the record that the origin had when the fan-out came up. It
has the delay of the broadcast's record unless that record was lost before, and the
notification comes at the end of that delay unless the fan-out was disturbed. -/
theorem Accepted.record_of_delivery {u : OnAgenda ε κ} {origins : List Origin} {b : Booking}
    (ha : Accepted s u origins) (h : s.Sound) (hu : u.Sound)
    (hb : b ∈ s.dispatcher.booked s.timers.elapsed origins) {record : Record ε}
    (hrecord : s.dispatcher.record? b.origin = some record) {before after : List (Deed ε κ)}
    (hfires : (u.after before).Fires deed b.ticket b.origin) {earlier rest : List (Deed ε κ)}
    {last : Deed ε κ} (hsplit : before ++ deed :: after = earlier ++ last :: rest) {d : Delivery}
    (hd : ((u.after earlier).act last).delivery? = some d) (hticket : d.ticket = b.ticket) :
    ∃ found, (u.after earlier).dispatcher.record? b.origin = some found ∧
      d.id ∈ found.listeners.map Prod.fst ∧
      (¬ u.LosesRecord b.origin before → found.delay = record.delay) ∧
      (u.Undisturbed b.ticket (before ++ deed :: after) → d.time = b.due) := by
  have hbound := ha.bound h hb
  have hdelivered := mem_deliveries.mpr ⟨earlier, last, rest, hsplit, hd⟩
  -- the fan-out has notified somebody, so it found a record when it came up
  obtain ⟨first, hfirst⟩ : ∃ first, (u.after before).dispatcher.record? b.origin = some first :=
    Option.ne_none_iff_exists'.mp fun hnone =>
      hu.not_delivered_of_dropped hbound.issued hfires hnone after hdelivered hticket
  obtain ⟨more, rfl, hmore⟩ := hu.fires_before_delivery hbound.issued hfires hsplit hd hticket
  have horigin := hu.delivery_origin hbound hdelivered hticket
  rw [after_append] at hd
  obtain ⟨found, hfound, hid, hsame⟩ :=
    (hu.after before).delay_of_delivered hfires hfirst hmore hd hticket horigin
  rw [after_append]
  refine ⟨found, hfound, hid, fun hkept => ?_, fun hcalm => ?_⟩
  · have hrecord' : u.dispatcher.record? b.origin = some record :=
      (Dispatcher.record?_congr ha.scattered.records b.origin).trans hrecord
    obtain ⟨kept, hkeptRecord, hdelay⟩ := hu.delay_after hkept hrecord'
    rw [hkeptRecord] at hfirst
    cases hfirst
    exact hsame.trans hdelay
  · exact hu.delivery_time hbound (ha.punctual h hb) hcalm hdelivered hticket

/-- A scheduled fan-out comes up when the delay of its record is over. It keeps to that
record exactly if the record was not lost in the meantime or the origin still has none.
Otherwise it notifies the listeners of the new record, after the delay of the old one. -/
theorem fanOut_keeps_to_record_iff (intervals : IntervalSource) (delays : DelaySource)
    (past before after : List (Deed ε κ)) (route : Route) (turn : Deed ε κ) (ticket : Ticket)
    (origin : Origin) (record : Record ε)
    (haccepted : (((fresh intervals delays : OnAgenda ε κ).after past).act
      (.move route .broadcast)).signal = .answered (.verdict .accepted))
    (hrecord : ((fresh intervals delays : OnAgenda ε κ).after past).dispatcher.record? origin =
      some record)
    (hlow : ((fresh intervals delays : OnAgenda ε κ).after past).dispatcher.nextTicket ≤ ticket)
    (hhigh : ticket < (((fresh intervals delays : OnAgenda ε κ).after past).act
      (.move route .broadcast)).session.dispatcher.nextTicket)
    (hfires : ((((fresh intervals delays : OnAgenda ε κ).after past).act
      (.move route .broadcast)).session.after before).Fires turn ticket origin) :
    let start : OnAgenda ε κ := fresh intervals delays
    let s := start.after past
    let u := (s.act (.move route .broadcast)).session
    let v := u.after before
    let w := (v.act turn).session
    w.timers.elapsed = s.timers.elapsed + record.delay ∧
      ((u.LosesRecord origin before →
          (∀ d ∈ start.deliveries (past ++ .move route .broadcast :: (before ++ turn :: after)),
            d.ticket ≠ ticket) ∧
          w.dispatcher.stats.droppedFanouts = v.dispatcher.stats.droppedFanouts + 1) ↔
        ¬ (u.LosesRecord origin before ∧ v.dispatcher.record? origin ≠ none)) ∧
      (∀ found, v.dispatcher.record? origin = some found →
        ∃ id ∈ found.listeners.map Prod.fst,
          (v.act turn).delivery? = some ⟨ticket, origin, id, s.timers.elapsed + record.delay⟩ ∧
          w.dispatcher.stats.droppedFanouts = v.dispatcher.stats.droppedFanouts) ∧
      ∀ earlier last rest d, before ++ turn :: after = earlier ++ last :: rest →
        ((u.after earlier).act last).delivery? = some d → d.ticket = ticket →
        ∃ found, (u.after earlier).dispatcher.record? origin = some found ∧
          d.id ∈ found.listeners.map Prod.fst ∧
          (¬ u.LosesRecord origin before → found.delay = record.delay) ∧
          (u.Undisturbed ticket (before ++ turn :: after) →
            d.time = s.timers.elapsed + record.delay) := by
  intro start s u v w
  have hstart : start.Sound := sound_fresh intervals delays
  have h : s.Sound := hstart.after past
  have hu : u.Sound := h.act (.move route .broadcast)
  have hv : v.Sound := hu.after before
  obtain ⟨hquiet, origins, ha⟩ := accepted_of_signal haccepted
  obtain ⟨b, hb, rfl⟩ := ha.exists_ticket hlow hhigh
  have hbound := ha.bound h hb
  -- what fires is what the broadcast has booked, so it fires when that was due
  have hbooked : ⟨b.ticket, origin, w.timers.elapsed⟩ ∈ bookings v.timers := by
    rw [hv.bookings_of_fires hfires]
    exact List.mem_cons_self
  obtain ⟨rfl, hdue⟩ := (hu.bound_after hbound before).booked _ hbooked rfl
  have hdelay : b.due = s.timers.elapsed + record.delay := due_of_booked hb hrecord
  have helapsed : w.timers.elapsed = s.timers.elapsed + record.delay := hdue.trans hdelay
  have hdropped : v.dispatcher.record? b.origin = none →
      (∀ d ∈ u.deliveries (before ++ turn :: after), d.ticket ≠ b.ticket) ∧
        w.dispatcher.stats.droppedFanouts = v.dispatcher.stats.droppedFanouts + 1 := fun hnone =>
    ⟨fun d hd => hu.not_delivered_of_dropped hbound.issued hfires hnone after hd,
      congrArg Stats.droppedFanouts (hfires.dropped hnone).2.2⟩
  have hfired : ∀ found, v.dispatcher.record? b.origin = some found →
      ∃ id ∈ found.listeners.map Prod.fst,
        (v.act turn).delivery? =
          some ⟨b.ticket, b.origin, id, s.timers.elapsed + record.delay⟩ ∧
        w.dispatcher.stats.droppedFanouts = v.dispatcher.stats.droppedFanouts := by
    intro found hfound
    obtain ⟨id, later, hids, hdelivery, _, hstats⟩ := hv.fired hfires hfound
    have hcount := congrArg Stats.droppedFanouts hstats
    refine ⟨id, hids ▸ List.mem_cons_self, ?_, hcount⟩
    rw [hdelivery, show (v.act turn).session.timers.elapsed = _ from helapsed]
  refine ⟨helapsed, ⟨?_, ?_⟩, hfired, ?_⟩
  · -- a fan-out that finds a record is not counted as dropped
    rintro hclaim ⟨hlost, hsome⟩
    obtain ⟨found, hfound⟩ := Option.ne_none_iff_exists'.mp hsome
    obtain ⟨_, _, _, hsame⟩ := hfired found hfound
    exact Nat.succ_ne_self _ ((hclaim hlost).2.symm.trans hsame)
  · intro hkept hlost
    have hnone : v.dispatcher.record? b.origin = none :=
      Classical.byContradiction fun hsome => hkept ⟨hlost, hsome⟩
    obtain ⟨hnobody, hcount⟩ := hdropped hnone
    refine ⟨fun d hd => ?_, hcount⟩
    rw [deliveries_append] at hd
    rcases List.mem_append.mp hd with hpast | hlater
    · exact Nat.ne_of_lt (Nat.lt_of_lt_of_le (hstart.delivery_ticket_lt hpast) hlow)
    · apply hnobody d
      rcases List.mem_append.mp hlater with hhead | hrest
      · rw [hquiet] at hhead
        cases hhead
      · exact hrest
  · intro earlier last rest d hsplit hd hticket
    rw [← hdelay]
    exact ha.record_of_delivery h hu hb hrecord hfires hsplit hd hticket

/-! ## A record that is lost and made anew -/

/-- The listener leaves, another one registers, and ten seconds are about to pass. -/
def replacing : List (Deed Unit Unit) :=
  .move .straight (.disconnect ⟨default, 0⟩) ::
    (registering ++ [.move .straight (.travel (.advance (.ofSecs 10)))])

theorem fires_replacing :
    (announced.after replacing).Fires proceeding 0 default :=
  ⟨.straight, ⟨.ofSecs 10, some (.ofSecs 10), none, 0⟩, [], ⟨⟨.ofSecs 10, 0⟩, 0, .fanOut default 0⟩,
    { nextOrder := 1, nextId := 1 }, rfl, by rfl, by rfl, rfl⟩

theorem losesRecord_replacing : announced.LosesRecord default replacing :=
  ⟨[.move .straight (.disconnect ⟨default, 0⟩)], ⟨_, rfl⟩, by decide +kernel⟩

/-- The conditions are met when the second listener has taken the place of the first. -/
theorem fanOut_keeps_to_record_iff_replacing :
    ((twoDelays.after registering).act (.move .straight .broadcast)).signal =
        .answered (.verdict .accepted) ∧
      (twoDelays.after registering).dispatcher.record? default =
        some ⟨.ofSecs 10, [(0, ())]⟩ ∧
      (announced.after replacing).Fires proceeding 0 default ∧
      ((announced.after replacing).act proceeding).session.timers.elapsed =
        (twoDelays.after registering).timers.elapsed + .ofSecs 10 :=
  ⟨accepted_registering, rfl, fires_replacing,
    (fanOut_keeps_to_record_iff _ _ registering replacing [] .straight _ 0 default
      ⟨.ofSecs 10, [(0, ())]⟩ accepted_registering rfl (by decide +kernel) (by decide +kernel)
      fires_replacing).1⟩

/-- The second listener is told after ten seconds, although the record of the first one is
lost and its own has a delay of twenty; no fan-out is counted as dropped. -/
theorem newcomer_told_by_old_fanOut :
    announced.LosesRecord default replacing ∧
      twoDelays.deliveries (registering ++ .move .straight .broadcast ::
        (replacing ++ [proceeding])) = [⟨0, default, 1, .ofSecs 10⟩] ∧
      (twoDelays.after (registering ++ .move .straight .broadcast ::
        (replacing ++ [proceeding]))).dispatcher.randomDelay default =
          some (.ofSecs 20) ∧
      (twoDelays.after (registering ++ .move .straight .broadcast ::
        (replacing ++ [proceeding]))).dispatcher.stats.droppedFanouts = 0 :=
  ⟨losesRecord_replacing, by decide +kernel, by decide +kernel, by decide +kernel⟩

end Session

end Cadence.Broadcast
