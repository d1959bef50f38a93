import Cadence.Proofs.Broadcast.Calls
import Cadence.Proofs.Broadcast.Turns

/-! # One broadcast

A broadcast that is accepted gives a ticket to every origin that has a record. If
nobody drives the agenda from within a notification, then each listener of these
records is notified once and on time if it is still registered at its turn, and
not at all otherwise, and all this is settled when a drive has reached that time.
-/

namespace Cadence.Broadcast

/-- Whether a frame is a notification that has not returned. -/
def Frame.Notifies {δ : Type} : Frame δ → Prop
  | .fanning .. => True
  | _ => False

namespace Session

variable {ε κ : Type} {s : OnAgenda ε κ}

/-! ## Accepted broadcasts -/

/-- What a broadcast that is accepted makes of a session. -/
structure Accepted (s u : OnAgenda ε κ) (origins : List Origin) : Prop where
  visited : origins.Perm (s.dispatcher.records.map Prod.fst)
  scattered : Scattered s.dispatcher s.timers origins u.dispatcher u.timers
  frames : u.frames = s.frames

theorem accepted_of_signal {route : Route}
    (haccepted : (s.act (.move route .broadcast) : Result ε κ).signal =
      .answered (.verdict .accepted)) :
    (s.act (.move route .broadcast) : Result ε κ).delivery? = none ∧
      ∃ origins, Accepted s (s.act (.move route .broadcast)).session origins := by
  unfold act perform at haccepted ⊢
  dsimp only at haccepted ⊢
  split at haccepted
  next => cases haccepted
  next hopen =>
    rw [if_neg hopen]
    have howned : s.standing = .owned := by simpa [Move.needsDispatcher] using hopen
    have hcases := broadcast_cases route s.dispatcher s.timers
      (Timeline.clock Agenda.Drive s.timers)
    unfold broadcast at haccepted ⊢
    -- the signal tells only the verdict, so the rest is read off the cases of a broadcast
    generalize s.dispatcher.broadcast route.visit s.timers (Timeline.clock Agenda.Drive s.timers) =
      out at haccepted hcases ⊢
    obtain ⟨verdict, d, timers, events⟩ := out
    unfold Session.answer at haccepted ⊢
    dsimp only at haccepted hcases ⊢
    rw [if_neg (by simp [howned])] at haccepted ⊢
    cases haccepted
    rcases hcases with ⟨hne, _⟩ | ⟨_, origins, hvisited, hscattered⟩
    · exact absurd rfl hne
    · exact ⟨rfl, origins, hvisited, hscattered, rfl⟩

section Bookings

variable {u : OnAgenda ε κ} {origins : List Origin} {b : Booking}

/-- Every listener's origin has a ticket that is due when the delay of its record is over. -/
theorem Accepted.exists_booked (ha : Accepted s u origins) {origin : Origin} {record : Record ε}
    (hrecord : s.dispatcher.record? origin = some record) :
    ∃ b ∈ s.dispatcher.booked s.timers.elapsed origins,
      b.origin = origin ∧ b.due = s.timers.elapsed + record.delay := by
  have horigin : origin ∈ origins :=
    ha.visited.mem_iff.mpr (Dispatcher.record?_ne_none.mp (by simp [hrecord]))
  rw [← booked_origins s.dispatcher s.timers.elapsed origins] at horigin
  obtain ⟨b, hb, rfl⟩ := List.mem_map.mp horigin
  exact ⟨b, hb, rfl, due_of_booked hb hrecord⟩

theorem Accepted.exists_ticket (ha : Accepted s u origins) {ticket : Ticket}
    (hlow : s.dispatcher.nextTicket ≤ ticket) (hhigh : ticket < u.dispatcher.nextTicket) :
    ∃ b ∈ s.dispatcher.booked s.timers.elapsed origins, b.ticket = ticket := by
  rw [ha.scattered.nextTicket] at hhigh
  have hticket := List.mem_range'_1.mpr ⟨hlow, hhigh⟩
  rw [← booked_tickets s.dispatcher s.timers.elapsed origins] at hticket
  exact List.mem_map.mp hticket

theorem Accepted.ticket_range (ha : Accepted s u origins)
    (hb : b ∈ s.dispatcher.booked s.timers.elapsed origins) :
    s.dispatcher.nextTicket ≤ b.ticket ∧ b.ticket < u.dispatcher.nextTicket := by
  have hticket := List.mem_map_of_mem (f := Booking.ticket) hb
  rw [booked_tickets] at hticket
  rw [ha.scattered.nextTicket]
  exact List.mem_range'_1.mp hticket

theorem Accepted.origins_nodup (ha : Accepted s u origins) (h : s.Sound) : origins.Nodup :=
  ha.visited.nodup_iff.mpr h.registry.origins_nodup

theorem Accepted.mem_bookings (ha : Accepted s u origins)
    (hb : b ∈ s.dispatcher.booked s.timers.elapsed origins) : b ∈ bookings u.timers :=
  ha.scattered.bookings.mem_iff.mpr (List.mem_append_left _ hb)

theorem Accepted.awaits (ha : Accepted s u origins)
    (hb : b ∈ s.dispatcher.booked s.timers.elapsed origins) (id : EndpointId) :
    u.Awaits b.ticket id :=
  .inl ⟨b, ha.mem_bookings hb, rfl⟩

theorem Accepted.not_active (ha : Accepted s u origins) (h : s.Sound)
    (hb : b ∈ s.dispatcher.booked s.timers.elapsed origins) {f : Active} (hf : f ∈ u.active) :
    f.ticket ≠ b.ticket := by
  intro heq
  unfold active at hf
  rw [ha.frames] at hf
  have hold := h.ticket_lt f.ticket (List.mem_append_right _ (List.mem_map_of_mem hf))
  exact Nat.not_lt.mpr (ha.ticket_range hb).1 (heq ▸ hold)

theorem Accepted.bound (ha : Accepted s u origins) (h : s.Sound)
    (hb : b ∈ s.dispatcher.booked s.timers.elapsed origins) : Bound b.ticket b.origin b.due u where
  issued := (ha.ticket_range hb).2
  booked c hc hticket := by
    rcases List.mem_append.mp (ha.scattered.bookings.mem_iff.mp hc) with hnew | hold
    · exact booked_inj hnew hb (.inl hticket) ▸ ⟨rfl, rfl⟩
    · have hlt := h.ticket_lt c.ticket (List.mem_append_left _ (List.mem_map_of_mem hold))
      exact absurd (hticket ▸ hlt) (Nat.not_lt.mpr (ha.ticket_range hb).1)
  active _ hf hticket := absurd hticket (ha.not_active h hb hf)

theorem Accepted.punctual (ha : Accepted s u origins) (h : s.Sound)
    (hb : b ∈ s.dispatcher.booked s.timers.elapsed origins) : Punctual b.ticket b.due u where
  clear := by
    -- the ticket is fresh, so no frame belongs to its fan-out yet
    apply List.pairwise_of_forall_mem_list
    intro frame _ below hbelow hfan
    obtain ⟨f, hf, hticket⟩ := hfan
    exact absurd hticket (ha.not_active h hb (List.mem_filterMap.mpr ⟨below, hbelow, hf⟩))
  on_time _ hf hticket := absurd hticket (ha.not_active h hb hf)

/-- A listener that is notified under one of the tickets has the ticket's origin. -/
theorem Accepted.exists_delivered (ha : Accepted s u origins) (h : s.Sound) (hu : u.Sound)
    {later : List (Deed ε κ)} {d : Delivery} (hd : d ∈ u.deliveries later)
    (hlow : s.dispatcher.nextTicket ≤ d.ticket) (hhigh : d.ticket < u.dispatcher.nextTicket) :
    ∃ b ∈ s.dispatcher.booked s.timers.elapsed origins,
      b.ticket = d.ticket ∧ b.origin = d.origin := by
  obtain ⟨b, hb, hticket⟩ := ha.exists_ticket hlow hhigh
  exact ⟨b, hb, hticket, (hu.delivery_origin (ha.bound h hb) hd hticket.symm).symm⟩

end Bookings

/-! ## The end of a drive -/

/-- A drive up to a time or further returns with this deed. -/
def Returns (s : OnAgenda ε κ) (deed : Deed ε κ) (time : Span) : Prop :=
  ∃ route drive rest arrival, deed = .move route .proceed ∧
    s.frames = .travelling drive :: rest ∧ time ≤ drive.limit ∧
    (s.act deed).signal = .answered (.arrived arrival)

theorem fan_signal (entrance : Entrance) (origin : Origin) (ids : List EndpointId)
    (notes : List Note) (arrival : Arrival) :
    (s.fan notes entrance origin ids : Result ε κ).signal ≠ .answered (.arrived arrival) := by
  unfold fan
  split
  next => nofun
  next =>
    cases entrance with
    | request =>
        unfold Session.answer
        dsimp only
        split <;> nofun
    | task _ => nofun

/-- A drive returns only when nothing is due any more. -/
theorem popDue_of_arrived {drive : Agenda.Drive} {rest : List (Frame Agenda.Drive)}
    {arrival : Arrival} (hframes : s.frames = .travelling drive :: rest)
    (hsignal : (s.proceed : Result ε κ).signal = .answered (.arrived arrival)) :
    s.timers.popDue drive.limit = none ∧
      (s.proceed : Result ε κ).session =
        { s with timers := s.timers.settled drive, frames := rest } := by
  unfold proceed at hsignal ⊢
  rw [hframes] at hsignal ⊢
  dsimp only at hsignal ⊢
  cases hpop : s.timers.popDue drive.limit with
  | none =>
      have hturn : Timeline.turn s.timers drive = _ := Agenda.turn_of_popDue_eq_none hpop
      rw [hturn]
      exact ⟨rfl, rfl⟩
  | some found =>
      -- a task that is due comes up instead
      obtain ⟨e, b⟩ := found
      have hturn : Timeline.turn s.timers drive = _ := Agenda.turn_of_popDue_eq_some hpop
      rw [hturn] at hsignal
      dsimp only at hsignal
      cases htask : e.task with
      | fanOut origin ticket =>
          rw [htask] at hsignal
          exact absurd hsignal (fan_signal _ _ _ _ _)
      | posted work =>
          rw [htask] at hsignal
          cases hsignal

/-- When a drive to the time at which a fan-out was due has returned, it is over. -/
theorem Sound.done_of_returns (h : s.Sound) {ticket : Ticket} {origin : Origin} {due : Span}
    (hbound : Bound ticket origin due s) (hpunctual : Punctual ticket due s) {deed : Deed ε κ}
    (hreturns : s.Returns deed due) (id : EndpointId) :
    ¬ (s.act deed).session.Awaits ticket id := by
  obtain ⟨route, drive, rest, arrival, rfl, hframes, hlimit, hsignal⟩ := hreturns
  have hproceed : (s.act (.move route .proceed) : Result ε κ) = s.proceed := rfl
  rw [hproceed] at hsignal ⊢
  obtain ⟨hidle, hsession⟩ := popDue_of_arrived hframes hsignal
  rw [hsession]
  rintro (⟨b, hb, hticket⟩ | ⟨f, hf, hticket, _⟩)
  · obtain ⟨e, he, hbooking⟩ := List.mem_filterMap.mp hb
    have hlate := h.agenda.lt_of_popDue_eq_none hidle he
    have hdue : b.due = e.key.deadline := by
      unfold booking? at hbooking
      split at hbooking <;> cases hbooking
      rfl
    have hb' : b ∈ bookings s.timers := hb
    rw [← hdue, (hbound.booked b hb' hticket).2] at hlate
    exact Span.not_lt.mpr hlimit hlate
  · refine hpunctual.not_active hframes ?_ hticket
    unfold active at hf ⊢
    rw [hframes]
    exact hf

/-! ## Runs in which no listener drives the agenda -/

/-- In these deeds no drive is started from within a notification. -/
def Calm (s : OnAgenda ε κ) : List (Deed ε κ) → Prop
  | [] => True
  | deed :: rest =>
      (∀ route t, deed = .move route (.travel t) → ∀ frame ∈ s.frames, ¬ frame.Notifies) ∧
        (s.act deed).session.Calm rest

theorem calm_append {first second : List (Deed ε κ)} :
    s.Calm (first ++ second) ↔ s.Calm first ∧ (s.after first).Calm second := by
  induction first generalizing s with
  | nil => simp [Calm, after]
  | cons deed rest ih => simp [Calm, ih, after_cons, and_assoc]

theorem notifies_of_active {frame : Frame Agenda.Drive} {f : Active}
    (hactive : frame.active? = some f) : frame.Notifies := by
  unfold Frame.active? at hactive
  split at hactive
  next => trivial
  next => cases hactive

theorem Calm.undisturbed {deeds : List (Deed ε κ)} (hcalm : s.Calm deeds) (ticket : Ticket) :
    s.Undisturbed ticket deeds := by
  induction deeds generalizing s with
  | nil => trivial
  | cons deed rest ih =>
      refine ⟨fun route t hdeed f hf _ => ?_, ih hcalm.2⟩
      obtain ⟨frame, hframe, hactive⟩ := List.mem_filterMap.mp hf
      exact hcalm.1 route t hdeed frame hframe (notifies_of_active hactive)

/-! ## Notices of a broadcast -/

/-- The notifications that scheduled fan-outs make under the tickets that one deed of a
run handed out. -/
def noticesOf (s : OnAgenda ε κ) (past : List (Deed ε κ)) (deed : Deed ε κ)
    (later : List (Deed ε κ)) : List Delivery :=
  (s.deliveries (past ++ deed :: later)).filter fun d =>
    (s.after past).dispatcher.nextTicket ≤ d.ticket ∧
      d.ticket < ((s.after past).act deed).session.dispatcher.nextTicket

/-- They come after the deed. -/
theorem Sound.noticesOf_eq (h : s.Sound) {past : List (Deed ε κ)} {deed : Deed ε κ}
    (hquiet : ((s.after past).act deed).delivery? = none) (later : List (Deed ε κ)) :
    s.noticesOf past deed later =
      (((s.after past).act deed).session.deliveries later).filter fun d =>
        (s.after past).dispatcher.nextTicket ≤ d.ticket ∧
          d.ticket < ((s.after past).act deed).session.dispatcher.nextTicket := by
  unfold noticesOf
  rw [deliveries_append, List.filter_append]
  refine (congrArg (· ++ _) (List.filter_eq_nil_iff.mpr fun d hd => ?_)).trans ?_
  · have hold := h.delivery_ticket_lt hd
    simpa using fun hlow => absurd hlow (Nat.not_le.mpr hold)
  · show List.filter _ (_ ++ _) = _
    rw [hquiet]
    rfl

section Notices

variable {u : OnAgenda ε κ} {origins : List Origin}

/-- No broadcast notifies a listener twice. -/
theorem Accepted.notices_nodup (ha : Accepted s u origins) (h : s.Sound) (hu : u.Sound)
    (later : List (Deed ε κ)) :
    (((u.deliveries later).filter fun d =>
      s.dispatcher.nextTicket ≤ d.ticket ∧ d.ticket < u.dispatcher.nextTicket).map
        Delivery.id).Nodup := by
  refine List.pairwise_map.mpr (List.pairwise_filter.mpr ?_)
  refine (hu.deliveries_apart later).imp_of_mem fun {d e} hd he hapart hdrange herange hid => ?_
  simp only [decide_eq_true_eq] at hdrange herange
  obtain ⟨b, hb, hbticket, hborigin⟩ := ha.exists_delivered h hu hd hdrange.1 hdrange.2
  obtain ⟨c, hc, hcticket, hcorigin⟩ := ha.exists_delivered h hu he herange.1 herange.2
  obtain ⟨hticket, horigin⟩ := hapart hid
  have hsame : b = c := booked_inj hb hc
    (.inr ⟨ha.origins_nodup h, hborigin.trans (horigin.trans hcorigin.symm)⟩)
  exact hticket (hbticket.symm.trans (hsame ▸ hcticket))

/-- A listener is notified under the ticket of its own origin only. -/
theorem Accepted.notices_eq (ha : Accepted s u origins) (h : s.Sound) (hu : u.Sound)
    {b : Booking} (hb : b ∈ s.dispatcher.booked s.timers.elapsed origins) {id : EndpointId}
    (hid : id ∈ s.dispatcher.registered b.origin) (later : List (Deed ε κ)) :
    ((u.deliveries later).filter fun d =>
      s.dispatcher.nextTicket ≤ d.ticket ∧ d.ticket < u.dispatcher.nextTicket).filter
        (fun d => d.id = id) = u.notices later b.ticket id := by
  unfold notices
  rw [List.filter_filter]
  apply List.filter_congr
  intro d hd
  rw [← Bool.decide_and]
  refine decide_eq_decide.mpr ⟨?_, ?_⟩
  · -- numbers stay with their origin, so the ticket is the one of this origin
    rintro ⟨rfl, hlow, hhigh⟩
    obtain ⟨c, hc, hcticket, hcorigin⟩ := ha.exists_delivered h hu hd hlow hhigh
    have hregistered := hu.registered_of_delivered hd
      (ha.scattered.nextEndpoint ▸ h.registry.id_lt _ _ hid)
    rw [Dispatcher.registered_congr ha.scattered.records] at hregistered
    have horigin := h.registry.home _ _ _ hid hregistered
    have hsame : b = c := booked_inj hb hc
      (.inr ⟨ha.origins_nodup h, horigin.trans hcorigin.symm⟩)
    exact ⟨hsame ▸ hcticket.symm, rfl⟩
  · rintro ⟨hticket, rfl⟩
    have hrange := ha.ticket_range hb
    rw [← hticket] at hrange
    exact ⟨rfl, hrange⟩

end Notices

/-- An accepted broadcast notifies nobody twice, and neither does a fan-out that is called
for. A listener that was registered at the broadcast, in a record with some delay, has had
its turn once a drive to the end of the delay or further has returned with the dispatcher
still there. The turn came exactly at the end of the delay; the listener is notified once
if it was registered at its turn, and never if it was not. -/
theorem broadcast_notifies_once (intervals : IntervalSource) (delays : DelaySource)
    (past later : List (Deed ε κ)) (route : Route)
    (hcalm : (fresh intervals delays : OnAgenda ε κ).Calm (past ++ .move route .broadcast :: later))
    (haccepted : (((fresh intervals delays : OnAgenda ε κ).after past).act
      (.move route .broadcast)).signal = .answered (.verdict .accepted)) :
    let start : OnAgenda ε κ := fresh intervals delays
    let s := start.after past
    let u := (s.act (.move route .broadcast)).session
    let notices := start.noticesOf past (.move route .broadcast) later
    (notices.map Delivery.id).Nodup ∧
      (∀ deeds way origin rest,
        ((start.after deeds).told (start.after deeds).frames.length
          (.move way (.dispatch origin) :: rest)).Nodup) ∧
      ∀ origin record id, s.dispatcher.record? origin = some record →
        id ∈ record.listeners.map Prod.fst →
        ∀ before last after, later = before ++ last :: after →
          (u.after before).Returns last (s.timers.elapsed + record.delay) →
          (u.after (before ++ [last])).standing ≠ .closed →
          ∃ ticket earlier turn rest, before ++ [last] = earlier ++ turn :: rest ∧
            ⟨ticket, origin, s.timers.elapsed + record.delay⟩ ∈ bookings u.timers ∧
            (u.after earlier).Awaits ticket id ∧ ¬ (u.after (earlier ++ [turn])).Awaits ticket id ∧
            (u.after (earlier ++ [turn])).timers.elapsed = s.timers.elapsed + record.delay ∧
            notices.filter (fun d => d.id = id) =
              if id ∈ (u.after earlier).dispatcher.registered origin then
                [⟨ticket, origin, id, s.timers.elapsed + record.delay⟩]
              else [] := by
  intro start s u notices
  have hstart : start.Sound := sound_fresh intervals delays
  have h : s.Sound := hstart.after past
  have hu : u.Sound := h.act (.move route .broadcast)
  obtain ⟨hquiet, origins, ha⟩ := accepted_of_signal haccepted
  have hnotices : notices = (u.deliveries later).filter _ := hstart.noticesOf_eq hquiet later
  rw [hnotices]
  refine ⟨ha.notices_nodup h hu later, ?_, ?_⟩
  · exact fun deeds way origin rest => (hstart.after deeds).told_dispatch_nodup way origin rest
  intro origin record id hrecord hid before last after hlater hreturns halive
  obtain ⟨b, hb, rfl, hdue⟩ := ha.exists_booked hrecord
  rw [← Dispatcher.registered_of_record? hrecord] at hid
  have hbound := ha.bound h hb
  have hpunctual := ha.punctual h hb
  have hundisturbed : u.Undisturbed b.ticket (before ++ [last]) := by
    have hlate : u.Calm (before ++ [last] ++ after) := by
      rw [List.append_assoc]
      exact hlater ▸ (calm_append.mp hcalm).2.2
    exact (calm_append.mp hlate).1.undisturbed b.ticket
  -- the drive has returned, so the fan-out is not booked and not under way
  have hdone : ¬ (u.after (before ++ [last])).Awaits b.ticket id := by
    rw [after_append]
    exact (hu.after before).done_of_returns (hu.bound_after hbound before)
      (hu.punctual_after hbound hpunctual before (undisturbed_append.mp hundisturbed).1)
      (hdue ▸ hreturns) id
  obtain ⟨earlier, turn, rest, hsplit, hwaiting, hturned, helapsed, hcount⟩ :=
    hu.exists_turn hbound hpunctual (ha.awaits hb id) hundisturbed halive hdone after
  rw [List.append_assoc, List.singleton_append, ← hlater] at hcount
  rw [← hdue]
  refine ⟨b.ticket, earlier, turn, rest, hsplit, ha.mem_bookings hb, hwaiting, hturned,
    helapsed, ?_⟩
  exact (ha.notices_eq h hu hb hid later).trans hcount

/-! ## A listener is told -/

/-- A dispatcher that draws ten seconds for its first record and twenty for its second. -/
def twoDelays : OnAgenda Unit Unit :=
  fresh ⟨fun _ => .ofSecs 60, 0⟩ (.scripted [.ofSecs 10, .ofSecs 20])

/-- A listener registers. -/
def registering : List (Deed Unit Unit) :=
  [.move .straight (.add default ()), .move .straight .resume]

/-- The session right after a broadcast to this listener. -/
def announced : OnAgenda Unit Unit :=
  ((twoDelays.after registering).act (.move .straight .broadcast)).session

/-- Ten seconds pass, up to the turn in which the listener is notified. -/
def passing : List (Deed Unit Unit) :=
  [.move .straight (.travel (.advance (.ofSecs 10))), .move .straight .proceed,
    .move .straight .resume]

/-- The turn in which the next timer fires or the next listener is notified. -/
def proceeding : Deed Unit Unit :=
  .move .straight .proceed

theorem accepted_registering : ((twoDelays.after registering).act
    (.move .straight .broadcast)).signal = .answered (.verdict .accepted) := by
  rfl

theorem calm_passing : twoDelays.Calm
    (registering ++ .move .straight .broadcast :: (passing ++ [proceeding])) := by
  refine ⟨nofun, nofun, nofun, fun _ _ _ frame hframe => ?_, nofun, nofun, nofun, trivial⟩
  cases hframe

theorem returns_passing : (announced.after passing).Returns proceeding
    ((twoDelays.after registering).timers.elapsed + .ofSecs 10) :=
  ⟨.straight, ⟨.ofSecs 10, some (.ofSecs 10), none, 1⟩, [], .ran 1, rfl, by rfl, by decide,
    by rfl⟩

theorem alive_passing :
    (announced.after (passing ++ [proceeding])).standing ≠ .closed := by
  decide +kernel

/-- The only listener is told ten seconds after the broadcast. -/
theorem broadcast_notifies_only_listener :
    twoDelays.Calm
        (registering ++ .move .straight .broadcast :: (passing ++ [proceeding])) ∧
      ((twoDelays.after registering).act (.move .straight .broadcast)).signal =
        .answered (.verdict .accepted) ∧
      (∃ earlier turn rest, passing ++ [proceeding] = earlier ++ turn :: rest ∧
        (announced.after (earlier ++ [turn])).timers.elapsed =
          (twoDelays.after registering).timers.elapsed + .ofSecs 10) ∧
      twoDelays.noticesOf registering (.move .straight .broadcast)
        (passing ++ [proceeding]) = [⟨0, default, 0, .ofSecs 10⟩] := by
  obtain ⟨-, -, honce⟩ := broadcast_notifies_once ⟨fun _ => .ofSecs 60, 0⟩
    (.scripted [.ofSecs 10, .ofSecs 20]) registering (passing ++ [proceeding])
    .straight calm_passing accepted_registering
  obtain ⟨ticket, earlier, turn, rest, hsplit, -, -, -, helapsed, -⟩ :=
    honce default ⟨.ofSecs 10, [(0, ())]⟩ 0 rfl (by decide) passing _ [] rfl returns_passing
      alive_passing
  exact ⟨calm_passing, accepted_registering, ⟨earlier, turn, rest, hsplit, helapsed⟩,
    by decide +kernel⟩

end Session

end Cadence.Broadcast
