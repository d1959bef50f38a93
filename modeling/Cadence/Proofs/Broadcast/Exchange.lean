import Cadence.Channel
import Cadence.Proofs.Broadcast.Effects

/-! # Channel listeners around a dispatcher

An exchange is the session of a dispatcher together with the channel listeners on its
agenda. A channel listener that is registered is handed the registration at once, posts
it when it disconnects, and the registration is taken back when the posted task runs.
Whatever else goes on, other listeners and other dispatchers included, belongs to the
surroundings: they move the session, hand the channel listeners handlers of their own,
and send, disconnect and close as they like.
-/

namespace Cadence.Broadcast

/-- Who is registered: a channel listener, known by its name, or somebody else. -/
inductive Listener (ν : Type)
  | channel (name : ν)
  | other

/-- Work that is put off: taking back the registration of a listener whose peer is gone,
or something else. -/
inductive Chore (ω : Type)
  | handler (r : Registration)
  | other (work : ω)

/-! ## Handlers that wait -/

section Handlers

variable {ν ω ε : Type}

/-- The registration that an entry is to take back, and when. -/
def handler? (e : Entry (Errand (Chore ω))) : Option (Registration × Span) :=
  match e.task with
  | .posted (.handler r) => some (r, e.key.deadline)
  | _ => none

/-- The registrations that an agenda is to take back. -/
def handlers (a : Agenda (Errand (Chore ω))) : List (Registration × Span) :=
  a.queue.filterMap handler?

theorem handler?_of_handler {e : Entry (Errand (Chore ω))} {r : Registration}
    (h : e.task = .posted (.handler r)) : handler? e = some (r, e.key.deadline) := by
  simp [handler?, h]

theorem handler?_of_other {e : Entry (Errand (Chore ω))} {work : ω}
    (h : e.task = .posted (.other work)) : handler? e = none := by
  simp [handler?, h]

theorem handler?_of_fanOut {e : Entry (Errand (Chore ω))} {origin : Origin} {ticket : Ticket}
    (h : e.task = .fanOut origin ticket) : handler? e = none := by
  simp [handler?, h]

theorem handlers_schedule (a : Agenda (Errand (Chore ω))) (delay : Span)
    (task : Errand (Chore ω)) : (handlers (a.schedule delay task).2).Perm
      ((handler? (a.entryFor delay task)).toList ++ handlers a) :=
  a.filterMap_schedule handler? delay task

theorem handlers_of_popDue {a b : Agenda (Errand (Chore ω))} {limit : Span}
    {e : Entry (Errand (Chore ω))} (hpop : a.popDue limit = some (e, b)) :
    handlers a = (handler? e).toList ++ handlers (b.started e) :=
  Agenda.filterMap_of_popDue (b := b) handler? hpop

/-- Where nothing is due, every registration is taken back later. -/
theorem lt_of_mem_handlers {a : Agenda (Errand (Chore ω))} (h : a.Sound) {limit due : Span}
    {r : Registration} (hidle : a.popDue limit = none) (hmem : (r, due) ∈ handlers a) :
    limit < due := by
  obtain ⟨e, he, hentry⟩ := List.mem_filterMap.mp hmem
  have hlt := h.lt_of_popDue_eq_none hidle he
  unfold handler? at hentry
  split at hentry
  next =>
    cases hentry
    exact hlt
  next => cases hentry

/-- Taking work back leaves the handlers alone, unless one has that number. -/
theorem handlers_withdraw {a : Agenda (Errand (Chore ω))} (h : a.Sound) {id : TaskId}
    (hnone : ∀ e ∈ a.queue, e.id = id → handler? e = none) :
    handlers (withdraw a id) = handlers a :=
  withdraw_filterMap h fun e he hid _ => hnone e he hid

theorem handlers_foldl_scheduleFanOut (d : Dispatcher ε) (a : Agenda (Errand (Chore ω)))
    (origins : List Origin) :
    (handlers (origins.foldl Dispatcher.scheduleFanOut (d, a)).2).Perm (handlers a) := by
  induction origins generalizing d a with
  | nil => exact List.Perm.refl _
  | cons o rest ih =>
      refine (ih _ _).trans ?_
      show (handlers (Dispatcher.scheduleFanOut (d, a) o).2).Perm _
      cases hrecord : d.record? o with
      | none =>
          unfold Dispatcher.scheduleFanOut
          dsimp only
          rw [hrecord]
      | some record =>
          rw [scheduleFanOut_of_record hrecord]
          exact handlers_schedule a record.delay (.fanOut o d.nextTicket)

end Handlers

theorem Dispatcher.Kept.told {ε : Type} {d d' : Dispatcher ε} (h : d.Kept d') (notified : Bool) :
    d.Kept (d'.told notified) := by
  cases notified <;> exact ⟨h.records, h.nextEndpoint, h.nextTicket⟩

/-! ## Channels -/

section Channels

variable {κ : Type}

/-- What becomes of the handler of a channel that may be handed another one: either the
channel keeps the newest, or it disconnects and posts it. The last index is what it posts. -/
inductive Handover (c : Channel κ) (given : Option κ) (c' : Channel κ) : Option κ → Prop
  | keep (handler : c'.handler = given.or c.handler)
      (disconnected : c'.disconnected = c.disconnected)
      (connected : given ≠ none → c.disconnected = false)
      (watcher : c.watcher = none → c'.watcher = none) : Handover c given c' none
  | sever (handler : c'.handler = none) (disconnected : c'.disconnected = true)
      (watcher : c.watcher = none → c'.watcher = none) :
      Handover c given c' (given.or c.handler)

/-- What the channel keeps or posts in the end is what it is given, or else what it had. -/
theorem Handover.source {c c' : Channel κ} {given posted : Option κ}
    (h : Handover c given c' posted) {k : κ} (hk : c'.handler = some k ∨ posted = some k) :
    given.or c.handler = some k := by
  cases h with
  | keep handler _ _ _ => exact handler ▸ hk.resolve_right nofun
  | sever handler _ _ => exact hk.resolve_left fun hkept => absurd (handler.symm.trans hkept) nofun

/-- It does not do both, and it always does one of them. -/
theorem Handover.kept_or_posted {c c' : Channel κ} {given posted : Option κ}
    (h : Handover c given c' posted) :
    (c'.handler = given.or c.handler ∧ posted = none) ∨
      (c'.handler = none ∧ posted = given.or c.handler) := by
  cases h with
  | keep handler _ _ _ => exact .inl ⟨handler, rfl⟩
  | sever handler _ _ => exact .inr ⟨handler, rfl⟩

/-- Puts work off without delay, if there is any. -/
def posting (a : Agenda (Errand κ)) : Option κ → Agenda (Errand κ)
  | none => a
  | some work => (a.schedule .zero (.posted work)).2

@[simp] theorem posting_elapsed (a : Agenda (Errand κ)) (posted : Option κ) :
    (posting a posted).elapsed = a.elapsed := by
  cases posted <;> rfl

theorem mem_handlers_posting {ω : Type} {a : Agenda (Errand (Chore ω))}
    {posted : Option (Chore ω)} {r : Registration} {t : Span} :
    (r, t) ∈ handlers (posting a posted) ↔
      (r, t) ∈ handlers a ∨ (posted = some (.handler r) ∧ t = a.elapsed) := by
  match posted with
  | none => simp [posting]
  | some (.other work) =>
      have hperm := handlers_schedule a .zero (.posted (.other work))
      rw [handler?_of_other rfl] at hperm
      simpa [posting] using hperm.mem_iff
  | some (.handler given) =>
      have hperm := handlers_schedule a .zero (.posted (.handler given))
      rw [handler?_of_handler rfl] at hperm
      refine hperm.mem_iff.trans ?_
      show (r, t) ∈ (given, a.elapsed + .zero) :: handlers a ↔ _
      rw [Span.add_zero, List.mem_cons, or_comm]
      simp [eq_comm]

variable {c : Channel κ} (a : Agenda (Errand κ))

theorem handover_disconnect (hwatcher : c.watcher = none) :
    ∃ posted, Handover c none (c.disconnect .posted a).1 posted ∧
      (c.disconnect .posted a).2.1 = posting a posted := by
  unfold Channel.disconnect
  split
  next => exact ⟨none, .keep rfl rfl (absurd rfl) id, rfl⟩
  next =>
    refine ⟨c.handler, .sever rfl rfl fun _ => rfl, ?_⟩
    unfold Channel.stopWatching Channel.postHandler
    dsimp only
    rw [hwatcher]
    cases c.handler <;> rfl

theorem handover_notify (hwatcher : c.watcher = none) :
    ∃ posted, Handover c none (c.notify .posted a).1 posted ∧
      (c.notify .posted a).2.1 = posting a posted := by
  unfold Channel.notify
  split
  next => exact ⟨none, .keep rfl rfl (absurd rfl) id, rfl⟩
  next =>
    split
    next => exact ⟨none, .keep rfl rfl (absurd rfl) id, rfl⟩
    next => exact handover_disconnect a hwatcher

theorem handover_onDisconnect (work : κ) :
    ∃ posted, Handover c (some work) (c.onDisconnect .posted a work).1 posted ∧
      (c.onDisconnect .posted a work).2 = posting a posted := by
  unfold Channel.onDisconnect
  dsimp only
  split
  next => exact ⟨some work, .sever rfl rfl id, rfl⟩
  next hopen =>
    refine ⟨none, .keep rfl rfl (fun _ => ?_) id, rfl⟩
    simpa using (not_or.mp hopen).1

end Channels

/-! ## The exchange -/

/-- A dispatcher's session and the channel listeners on its agenda. -/
structure Exchange (ν ω : Type) where
  session : OnAgenda (Listener ν) (Chore ω)
  channel : ν → Channel (Chore ω)

namespace Exchange

variable {ν ω : Type} [DecidableEq ν]

/-- What happens at an exchange. Handlers of other dispatchers and tasks of other users are
work of somebody else. -/
inductive Act (ν ω : Type)
  | move (route : Route) (move : Move (Listener ν))
  | post (delay : Span) (work : ω)
  | withdraw (id : TaskId)
  /-- Another dispatcher registers a channel listener and hands it its own handler. -/
  | install (name : ν) (work : ω)
  | notify (name : ν)
  | disconnect (name : ν)
  | receive (name : ν)
  | close (name : ν)
  | dropReceiver (name : ν)

/-- Puts a changed channel and the timers back. -/
def setChannel (x : Exchange ν ω) (name : ν) (c : Channel (Chore ω))
    (timers : Agenda (Errand (Chore ω))) : Exchange ν ω :=
  { session := { x.session with timers }, channel := Function.update x.channel name c }

/-- Hands a channel listener what it posts when its peer is gone. -/
def install (x : Exchange ν ω) (name : ν) (chore : Chore ω) : Exchange ν ω :=
  let (c, timers) := (x.channel name).onDisconnect .posted x.session.timers chore
  x.setChannel name c timers

def notify (x : Exchange ν ω) (name : ν) : Exchange ν ω :=
  let (c, timers, _) := (x.channel name).notify .posted x.session.timers
  x.setChannel name c timers

def disconnect (x : Exchange ν ω) (name : ν) : Exchange ν ω :=
  let (c, timers, _) := (x.channel name).disconnect .posted x.session.timers
  x.setChannel name c timers

/-- Meets the call that the dispatcher makes, if it concerns a channel listener. -/
def meet (x : Exchange ν ω) : Option (Call (Listener ν) (Chore ω)) → Exchange ν ω
  | some (.install (.channel name) r) => x.install name (.handler r)
  | some (.notify (.channel name)) => x.notify name
  | some (.work (.handler r)) =>
      { x with session := (x.session.act (.move .straight (.disconnect r))).session }
  | _ => x

/-- Lets something happen to the session and meets the call that comes of it. -/
def undergo (x : Exchange ν ω) (h : Happening (Listener ν) (Chore ω)) : Exchange ν ω :=
  { x with session := (x.session.undergo h).session }.meet (x.session.undergo h).call?

/-- Performs one act. Nobody knows the numbers of the handlers, so nobody takes them back. -/
def act (x : Exchange ν ω) : Act ν ω → Exchange ν ω
  | .move route m => x.undergo (.deed (.move route m))
  | .post delay work => x.undergo (.deed (.post delay (.other work)))
  | .withdraw id =>
      if x.session.timers.queue.any fun e => e.id = id ∧ (handler? e).isSome then x
      else x.undergo (.withdraw id)
  | .install name work => x.install name (.other work)
  | .notify name => x.notify name
  | .disconnect name => x.disconnect name
  | .receive name => x.setChannel name (x.channel name).receive.2 x.session.timers
  | .close name => x.setChannel name (x.channel name).close x.session.timers
  | .dropReceiver name => x.setChannel name (x.channel name).dropReceiver x.session.timers

/-- The exchange after some acts. -/
def course (x : Exchange ν ω) (run : List (Act ν ω)) : Exchange ν ω := run.foldl act x

/-- An exchange at the beginning, with a new channel for each name. -/
def opening (origins : ν → Origin) (intervals : IntervalSource) (delays : DelaySource) :
    Exchange ν ω :=
  { session := Session.fresh intervals delays, channel := fun name => { origin := origins name } }

theorem course_append (x : Exchange ν ω) (first second : List (Act ν ω)) :
    x.course (first ++ second) = (x.course first).course second :=
  List.foldl_append

theorem course_concat (x : Exchange ν ω) (run : List (Act ν ω)) (a : Act ν ω) :
    x.course (run ++ [a]) = (x.course run).act a :=
  x.course_append run [a]

/-- A channel listener that is handed something keeps it or posts it. -/
theorem exists_handover_install (x : Exchange ν ω) (name : ν) (chore : Chore ω) :
    ∃ c' posted, x.install name chore =
        x.setChannel name c' (posting x.session.timers posted) ∧
      Handover (x.channel name) (some chore) c' posted := by
  obtain ⟨posted, hover, htimers⟩ := handover_onDisconnect (c := x.channel name)
    x.session.timers chore
  refine ⟨_, posted, ?_, hover⟩
  unfold install
  dsimp only
  rw [htimers]

theorem exists_handover_notify {x : Exchange ν ω} {name : ν}
    (hwatcher : (x.channel name).watcher = none) :
    ∃ c' posted, x.notify name = x.setChannel name c' (posting x.session.timers posted) ∧
      Handover (x.channel name) none c' posted := by
  obtain ⟨posted, hover, htimers⟩ := handover_notify x.session.timers hwatcher
  refine ⟨_, posted, ?_, hover⟩
  unfold notify
  dsimp only
  rw [htimers]

theorem exists_handover_disconnect {x : Exchange ν ω} {name : ν}
    (hwatcher : (x.channel name).watcher = none) :
    ∃ c' posted, x.disconnect name = x.setChannel name c' (posting x.session.timers posted) ∧
      Handover (x.channel name) none c' posted := by
  obtain ⟨posted, hover, htimers⟩ := handover_disconnect x.session.timers hwatcher
  refine ⟨_, posted, ?_, hover⟩
  unfold disconnect
  dsimp only
  rw [htimers]

/-! ## What an act does -/

/-- The dispatcher holds a registration of a channel listener. -/
def Holds (x : Exchange ν ω) (name : ν) (r : Registration) : Prop :=
  x.session.dispatcher.listener? r.origin r.id = some (.channel name)

/-- A channel listener keeps a registration that it will post when it disconnects. -/
def Keeps (x : Exchange ν ω) (name : ν) (r : Registration) : Prop :=
  (x.channel name).handler = some (.handler r)

/-- A task that is due at this time is to take a registration back. -/
def Posts (x : Exchange ν ω) (r : Registration) (due : Span) : Prop :=
  (r, due) ∈ handlers x.session.timers

/-- A channel listener is handed a handler, by this dispatcher or by another one. -/
def Installs (x : Exchange ν ω) (a : Act ν ω) (name : ν) : Prop :=
  (∃ work, a = .install name work) ∨
    ∃ route origin, a = .move route (.add origin (.channel name)) ∧ x.session.standing = .owned

/-- Somebody takes a registration back of his own accord. -/
def Releases (x : Exchange ν ω) (a : Act ν ω) (r : Registration) : Prop :=
  ∃ route, (a = .move route (.remove r) ∧ x.session.standing = .owned) ∨
    a = .move route (.disconnect r)

/-- What an act does to the registrations of channel listeners and to the handlers that are
to take them back. -/
inductive Step (x : Exchange ν ω) (a : Act ν ω) (x' : Exchange ν ω) : Prop
  /-- Nothing. -/
  | rest (next : x.session.dispatcher.nextEndpoint ≤ x'.session.dispatcher.nextEndpoint)
      (holds : ∀ name r, x'.Holds name r ↔ x.Holds name r)
      (slots : ∀ name, (x'.channel name).handler = (x.channel name).handler ∧
        (x'.channel name).disconnected = (x.channel name).disconnected ∧
        (x'.channel name).watcher = (x.channel name).watcher)
      (posts : ∀ r due, x'.Posts r due ↔ x.Posts r due)
  /-- A channel listener is notified, disconnected, or handed a handler. -/
  | hand (name : ν) (given posted : Option (Chore ω))
      (asked : given ≠ none → x.Installs a name)
      (next : x.session.dispatcher.nextEndpoint ≤ x'.session.dispatcher.nextEndpoint)
      (fresh : ∀ r, given = some (.handler r) → r.id = x.session.dispatcher.nextEndpoint ∧
        r.id < x'.session.dispatcher.nextEndpoint)
      (holds : ∀ n r, x'.Holds n r ↔ x.Holds n r ∨ (n = name ∧ given = some (.handler r)))
      (others : ∀ n, n ≠ name → x'.channel n = x.channel n)
      (handover : Handover (x.channel name) given (x'.channel name) posted)
      (posts : ∀ r due, x'.Posts r due ↔
        x.Posts r due ∨ (posted = some (.handler r) ∧ due = x'.session.timers.elapsed))
  /-- A registration is taken back, by somebody or by its handler. -/
  | strike (r : Registration) (cause : x.Releases a r ∨ ∃ due, x.Posts r due)
      (next : x.session.dispatcher.nextEndpoint ≤ x'.session.dispatcher.nextEndpoint)
      (holds : ∀ name r', x'.Holds name r' ↔ x.Holds name r' ∧ r' ≠ r)
      (slots : x'.channel = x.channel) (posts : ∀ r' due, x'.Posts r' due → x.Posts r' due)
      (others : ∀ r' due, r' ≠ r → x.Posts r' due → x'.Posts r' due)

end Exchange

/-- What a happening does to the session of an exchange, and the call that it leads to. -/
inductive Shift {ν ω : Type} [DecidableEq ν] (s : OnAgenda (Listener ν) (Chore ω))
    (h : Happening (Listener ν) (Chore ω)) (call : Option (Call (Listener ν) (Chore ω)))
    (s' : OnAgenda (Listener ν) (Chore ω)) : Prop
  /-- Nothing, and no channel listener is called. -/
  | still (records : s'.dispatcher.records = s.dispatcher.records)
      (next : s'.dispatcher.nextEndpoint = s.dispatcher.nextEndpoint)
      (handlers : (handlers s'.timers).Perm (handlers s.timers))
      (calls : ∀ x : Exchange ν ω, x.meet call = x)
  /-- A channel listener is notified. -/
  | notify (name : ν) (records : s'.dispatcher.records = s.dispatcher.records)
      (next : s'.dispatcher.nextEndpoint = s.dispatcher.nextEndpoint)
      (handlers : (handlers s'.timers).Perm (handlers s.timers))
      (calls : call = some (.notify (.channel name)))
  /-- A listener is registered and handed its registration. -/
  | enroll (route : Route) (origin : Origin) (endpoint : Listener ν)
      (asked : h = .deed (.move route (.add origin endpoint))) (held : s.standing = .owned)
      (dispatcher : s'.dispatcher = (s.dispatcher.add origin endpoint).2.1)
      (timers : s'.timers = s.timers)
      (calls : call = some (.install endpoint ⟨origin, s.dispatcher.nextEndpoint⟩))
  /-- Somebody takes a registration back. -/
  | strike (route : Route) (r : Registration)
      (asked : (h = .deed (.move route (.remove r)) ∧ s.standing = .owned) ∨
        h = .deed (.move route (.disconnect r)))
      (dispatcher : s'.dispatcher = (s.dispatcher.remove r).1)
      (timers : s'.timers = s.timers) (calls : call = none)
  /-- A handler comes up. -/
  | run (r : Registration) (due : Span) (dispatcher : s'.dispatcher = s.dispatcher)
      (handlers : handlers s.timers = (r, due) :: handlers s'.timers)
      (calls : call = some (.work (.handler r)))

section Shifts

variable {ν ω : Type} [DecidableEq ν] {s s' : OnAgenda (Listener ν) (Chore ω)}
  {h : Happening (Listener ν) (Chore ω)} {call : Option (Call (Listener ν) (Chore ω))}

/-- A notification concerns a channel listener or nobody here. -/
theorem shift_of_told (told : Option (Listener ν)) (hcall : call = told.map Call.notify)
    (hrecords : s'.dispatcher.records = s.dispatcher.records)
    (hnext : s'.dispatcher.nextEndpoint = s.dispatcher.nextEndpoint)
    (hhandlers : (handlers s'.timers).Perm (handlers s.timers)) : Shift s h call s' := by
  match told with
  | none => exact .still hrecords hnext hhandlers (hcall ▸ fun _ => rfl)
  | some .other => exact .still hrecords hnext hhandlers (hcall ▸ fun _ => rfl)
  | some (.channel name) => exact .notify name hrecords hnext hhandlers hcall

theorem shift_of_effect {share : Tally} (heffect : Effect s h share call s') (hsound : s.Sound)
    (hpost : ∀ delay r, h ≠ .deed (.post delay (.handler r)))
    (hwithdraw : ∀ id, h = .withdraw id → ∀ e ∈ s.timers.queue, e.id = id → handler? e = none) :
    Shift s h call s' := by
  have hsame : (handlers s.timers).Perm (handlers s.timers) := List.Perm.refl _
  have hkept := s.dispatcher.resolveInterval_kept
  cases heffect with
  | rest dispatcher timers _ calls =>
      exact shift_of_told none calls (by rw [dispatcher]) (by rw [dispatcher]) (timers ▸ hsame)
  | resolve dispatcher timers _ calls =>
      exact shift_of_told none calls (dispatcher ▸ hkept.records) (dispatcher ▸ hkept.nextEndpoint)
        (timers ▸ hsame)
  | enroll route origin endpoint asked held dispatcher timers _ calls =>
      exact .enroll route origin endpoint asked held dispatcher timers calls
  | strike route r asked dispatcher timers _ calls =>
      exact .strike route r asked dispatcher timers calls
  | suppress dispatcher timers _ calls =>
      exact shift_of_told none calls (dispatcher ▸ hkept.records) (dispatcher ▸ hkept.nextEndpoint)
        (timers ▸ hsame)
  | accept route now _ _ state _ calls =>
      have haccepting : s.dispatcher.Kept (s.dispatcher.resolveInterval.2.1.accepting now) :=
        ⟨hkept.records, hkept.nextEndpoint, hkept.nextTicket⟩
      have hscattered := scattered_visit haccepting route s.timers
      have hhandlers := handlers_foldl_scheduleFanOut
        (s.dispatcher.resolveInterval.2.1.accepting now) s.timers
        (route.visit (s.dispatcher.records.map Prod.fst))
      rw [haccepting.records, ← state] at hscattered
      rw [← state] at hhandlers
      exact shift_of_told none calls hscattered.records hscattered.nextEndpoint hhandlers
  | call origin told dispatcher timers _ calls =>
      have hstarted := (s.dispatcher.startFanOut_kept origin none).told told.isSome
      exact shift_of_told told calls (dispatcher ▸ hstarted.records)
        (dispatcher ▸ hstarted.nextEndpoint) (timers ▸ hsame)
  | fire route drive rest e b origin ticket told _ _ due task dispatcher timers _ calls =>
      have hstarted := (s.dispatcher.startFanOut_kept origin (some ticket)).told told.isSome
      refine shift_of_told told calls (dispatcher ▸ hstarted.records)
        (dispatcher ▸ hstarted.nextEndpoint) ?_
      rw [timers, handlers_of_popDue due, handler?_of_fanOut task]
      exact List.Perm.refl _
  | next endpoint dispatcher timers _ calls =>
      exact shift_of_told (some endpoint) calls (by rw [dispatcher]; rfl) (by rw [dispatcher]; rfl)
        (timers ▸ hsame)
  | post delay work asked dispatcher timers _ calls =>
      refine shift_of_told none calls (by rw [dispatcher]) (by rw [dispatcher]) ?_
      have hperm := handlers_schedule s.timers delay (.posted work)
      cases work with
      | handler r => exact absurd asked (hpost delay r)
      | other work =>
          rw [handler?_of_other rfl] at hperm
          rw [timers]
          exact hperm
  | withdraw id asked dispatcher timers _ calls =>
      refine shift_of_told none calls (by rw [dispatcher]) (by rw [dispatcher]) ?_
      rw [timers, handlers_withdraw hsound.agenda (hwithdraw id asked)]
  | work limit e b work due task dispatcher timers _ calls =>
      have hhandlers := handlers_of_popDue due
      rw [← timers] at hhandlers
      cases work with
      | handler r =>
          rw [handler?_of_handler task] at hhandlers
          exact .run r e.key.deadline dispatcher hhandlers calls
      | other work =>
          rw [handler?_of_other task] at hhandlers
          exact .still (by rw [dispatcher]) (by rw [dispatcher]) (.of_eq hhandlers.symm)
            (calls ▸ fun _ => rfl)
  | arrive drive dispatcher timers _ calls =>
      exact shift_of_told none calls (by rw [dispatcher]) (by rw [dispatcher]) (timers ▸ hsame)

end Shifts

namespace Exchange

section Holds

variable {ν ω : Type} {x : Exchange ν ω}

theorem holds_add (hsound : x.session.Sound) {origin : Origin} {endpoint : Listener ν} {name : ν}
    {r : Registration} :
    (x.session.dispatcher.add origin endpoint).2.1.listener? r.origin r.id =
        some (.channel name) ↔
      x.Holds name r ∨
        (endpoint = .channel name ∧ r = ⟨origin, x.session.dispatcher.nextEndpoint⟩) := by
  rw [hsound.registry.listener?_add_eq_some]
  refine or_congr Iff.rfl ?_
  obtain ⟨found, id⟩ := r
  rw [Registration.mk.injEq]
  exact ⟨fun ⟨ho, hid, he⟩ => ⟨he, ho, hid⟩, fun ⟨he, ho, hid⟩ => ⟨ho, hid, he⟩⟩

theorem holds_remove (hsound : x.session.Sound) {r taken : Registration} {name : ν} :
    (x.session.dispatcher.remove taken).1.listener? r.origin r.id = some (.channel name) ↔
      x.Holds name r ∧ r ≠ taken := by
  rw [hsound.registry.listener?_remove_eq_some]
  refine and_congr Iff.rfl (not_congr ?_)
  obtain ⟨found, id⟩ := r
  obtain ⟨origin, number⟩ := taken
  rw [Registration.mk.injEq]

/-- A registration that is taken back, by somebody or by its handler, is not held any more. -/
theorem step_strike {a : Act ν ω} {s' : OnAgenda (Listener ν) (Chore ω)}
    (hsound : x.session.Sound) {r : Registration} (hcause : x.Releases a r ∨ ∃ due, x.Posts r due)
    (hdispatcher : s'.dispatcher = (x.session.dispatcher.remove r).1)
    (hposts : ∀ r' due, (r', due) ∈ handlers s'.timers → x.Posts r' due)
    (hothers : ∀ r' due, r' ≠ r → x.Posts r' due → (r', due) ∈ handlers s'.timers) :
    Step x a (Exchange.mk s' x.channel) := by
  refine .strike r hcause (Nat.le_of_eq ?_) (fun name r' => ?_) rfl hposts hothers
  · show _ = s'.dispatcher.nextEndpoint
    rw [hdispatcher, (x.session.dispatcher.remove_counters r).1]
  · show s'.dispatcher.listener? r'.origin r'.id = _ ↔ _
    rw [hdispatcher]
    exact holds_remove hsound

end Holds

variable {ν ω : Type} [DecidableEq ν] {x : Exchange ν ω} {a : Act ν ω}

/-- A channel listener that is handed something, or nothing, keeps or posts what it has. -/
theorem step_hand {s' : OnAgenda (Listener ν) (Chore ω)} {name : ν}
    {given posted : Option (Chore ω)} {c' : Channel (Chore ω)}
    (hasked : given ≠ none → x.Installs a name)
    (hnext : x.session.dispatcher.nextEndpoint ≤ s'.dispatcher.nextEndpoint)
    (hfresh : ∀ r, given = some (.handler r) → r.id = x.session.dispatcher.nextEndpoint ∧
      r.id < s'.dispatcher.nextEndpoint)
    (hholds : ∀ n r, s'.dispatcher.listener? r.origin r.id = some (.channel n) ↔
      x.Holds n r ∨ (n = name ∧ given = some (.handler r)))
    (hposts : ∀ r due, (r, due) ∈ handlers s'.timers ↔ x.Posts r due)
    (hover : Handover (x.channel name) given c' posted) :
    Step x a ((Exchange.mk s' x.channel).setChannel name c' (posting s'.timers posted)) := by
  refine .hand name given posted hasked hnext hfresh hholds (fun n hn => ?_) ?_ fun r due => ?_
  · exact Function.update_of_ne hn c' x.channel
  · have hself : ((Exchange.mk s' x.channel).setChannel name c'
        (posting s'.timers posted)).channel name = c' := by
      simp [setChannel]
    rw [hself]
    exact hover
  · refine mem_handlers_posting.trans (or_congr (hposts r due) ?_)
    show _ ↔ _ ∧ due = (posting s'.timers posted).elapsed
    rw [posting_elapsed]

/-- A listener that is registered is handed its registration, if it is a channel listener. -/
theorem step_enroll {s' : OnAgenda (Listener ν) (Chore ω)} (hsound : x.session.Sound)
    {origin : Origin} {endpoint : Listener ν}
    (hasked : ∀ name, endpoint = .channel name → x.Installs a name)
    (hdispatcher : s'.dispatcher = (x.session.dispatcher.add origin endpoint).2.1)
    (htimers : s'.timers = x.session.timers) :
    Step x a ((Exchange.mk s' x.channel).meet
      (some (.install endpoint ⟨origin, x.session.dispatcher.nextEndpoint⟩))) := by
  have hnext : s'.dispatcher.nextEndpoint = x.session.dispatcher.nextEndpoint + 1 :=
    hdispatcher ▸ (x.session.dispatcher.add_counters origin endpoint).1
  have hposts : ∀ r due, (r, due) ∈ handlers s'.timers ↔ x.Posts r due := fun r due => by
    rw [htimers]
    exact Iff.rfl
  cases endpoint with
  | other =>
      refine .rest (hnext ▸ Nat.le_succ _) (fun name r => ?_) (fun _ => ⟨rfl, rfl, rfl⟩) hposts
      show s'.dispatcher.listener? r.origin r.id = _ ↔ _
      rw [hdispatcher, holds_add hsound]
      simp
  | channel name =>
      obtain ⟨c', posted, heq, hover⟩ := (Exchange.mk s' x.channel).exists_handover_install name
        (.handler ⟨origin, x.session.dispatcher.nextEndpoint⟩)
      show Step x a ((Exchange.mk s' x.channel).install name _)
      rw [heq]
      refine step_hand (fun _ => hasked name rfl) (hnext ▸ Nat.le_succ _) (fun r hr => ?_)
        (fun n r => ?_) hposts hover
      · cases hr
        exact ⟨rfl, hnext ▸ Nat.lt_succ_self _⟩
      · rw [hdispatcher, holds_add hsound]
        simp [eq_comm]

/-- What becomes of the session in an act decides what the act does. -/
theorem step_of_shift {h : Happening (Listener ν) (Chore ω)}
    {call : Option (Call (Listener ν) (Chore ω))} {s' : OnAgenda (Listener ν) (Chore ω)}
    (hshift : Shift x.session h call s') (hsound : x.session.Sound)
    (hwatcher : ∀ name, (x.channel name).watcher = none)
    (hmove : ∀ route m, h = .deed (.move route m) → a = .move route m) :
    Step x a ((Exchange.mk s' x.channel).meet call) := by
  have hsame : ∀ name r, s'.dispatcher.records = x.session.dispatcher.records →
      (s'.dispatcher.listener? r.origin r.id = some (.channel name) ↔ x.Holds name r) :=
    fun name r hrecords => by rw [Dispatcher.listener?_congr hrecords]; exact Iff.rfl
  cases hshift with
  | still records next handlers calls =>
      rw [calls]
      exact .rest (Nat.le_of_eq next.symm) (fun name r => hsame name r records)
        (fun _ => ⟨rfl, rfl, rfl⟩) fun r due => handlers.mem_iff
  | notify name records next handlers calls =>
      rw [calls]
      obtain ⟨c', posted, heq, hover⟩ :=
        exists_handover_notify (x := ⟨s', x.channel⟩) (hwatcher name)
      show Step x a ((Exchange.mk s' x.channel).notify name)
      rw [heq]
      refine step_hand (absurd rfl) (Nat.le_of_eq next.symm) (fun _ => nofun) (fun n r => ?_)
        (fun r due => handlers.mem_iff) hover
      rw [hsame n r records]
      simp
  | enroll route origin endpoint asked held dispatcher timers calls =>
      rw [calls]
      refine step_enroll hsound (fun name hname => ?_) dispatcher timers
      exact .inr ⟨route, origin, hname ▸ hmove _ _ asked, held⟩
  | strike route r asked dispatcher timers calls =>
      rw [calls]
      have hasked : x.Releases a r :=
        ⟨route, asked.imp (fun ⟨hh, howned⟩ => ⟨hmove _ _ hh, howned⟩) (hmove _ _)⟩
      refine step_strike hsound (.inl hasked) dispatcher (fun r' due => ?_) fun r' due _ => ?_
      · exact timers ▸ id
      · exact timers ▸ id
  | run r due dispatcher handlers calls =>
      rw [calls]
      have hposts : ∀ r' due', x.Posts r' due' ↔
          (r', due') = (r, due) ∨ (r', due') ∈ Broadcast.handlers s'.timers := fun r' due' => by
        unfold Posts
        rw [handlers]
        exact List.mem_cons
      -- the handler does nothing but take its registration back
      show Step x a (Exchange.mk (s'.act (.move .straight (.disconnect r))).session x.channel)
      refine step_strike hsound (.inr ⟨due, (hposts r due).mpr (.inl rfl)⟩) (dispatcher ▸ rfl)
        (fun r' due' hmem => (hposts r' due').mpr (.inr hmem)) fun r' due' hne hmem => ?_
      exact ((hposts r' due').mp hmem).resolve_left fun heq => hne (congrArg Prod.fst heq)

theorem meet_standing (x : Exchange ν ω) (call : Option (Call (Listener ν) (Chore ω))) :
    (x.meet call).session.standing = x.session.standing := by
  unfold meet
  split <;> rfl

theorem undergo_alive {h : Happening (Listener ν) (Chore ω)}
    (halive : (x.undergo h).session.standing ≠ .closed) :
    (x.session.undergo h).session.standing ≠ .closed := by
  unfold Exchange.undergo at halive
  rwa [meet_standing] at halive

/-- What a receiver does is of no concern to the handler. -/
theorem step_receiver (a : Act ν ω) (name : ν) {c' : Channel (Chore ω)}
    (hslot : c'.handler = (x.channel name).handler ∧
      c'.disconnected = (x.channel name).disconnected ∧ c'.watcher = (x.channel name).watcher) :
    Step x a (x.setChannel name c' x.session.timers) := by
  refine .rest (Nat.le_refl _) (fun _ _ => Iff.rfl) (fun n => ?_) fun _ _ => Iff.rfl
  by_cases hn : n = name
  · subst hn
    simpa [setChannel] using hslot
  · simp [setChannel, hn]

/-- An act while the dispatcher is there does one of three things. -/
theorem step_act (hsound : x.session.Sound) (hwatcher : ∀ name, (x.channel name).watcher = none)
    (a : Act ν ω) (halive : (x.act a).session.standing ≠ .closed) : Step x a (x.act a) := by
  cases a with
  | move route m =>
      have heffect := Session.effect_undergo _ _ (undergo_alive halive)
      refine step_of_shift (shift_of_effect heffect hsound (fun _ _ => nofun) fun _ => nofun) hsound
        hwatcher fun route' m' hh => ?_
      cases hh
      rfl
  | post delay work =>
      have heffect := Session.effect_undergo _ _ (undergo_alive halive)
      exact step_of_shift (shift_of_effect heffect hsound (fun _ _ => nofun) fun _ => nofun) hsound
        hwatcher fun _ _ => nofun
  | withdraw id =>
      unfold act at halive ⊢
      dsimp only at halive ⊢
      split
      next =>
        exact .rest (Nat.le_refl _) (fun _ _ => Iff.rfl) (fun _ => ⟨rfl, rfl, rfl⟩)
          fun _ _ => Iff.rfl
      next hfree =>
        rw [if_neg hfree] at halive
        have heffect := Session.effect_undergo _ _ (undergo_alive halive)
        refine step_of_shift (shift_of_effect heffect hsound (fun _ _ => nofun) ?_) hsound
          hwatcher fun _ _ => nofun
        intro id' hid e he heid
        cases hid
        simp only [List.any_eq_true, decide_eq_true_eq, not_exists, not_and] at hfree
        simpa using hfree e he heid
  | install name work =>
      obtain ⟨c', posted, heq, hover⟩ := x.exists_handover_install name (.other work)
      show Step x _ (x.install name _)
      rw [heq]
      exact step_hand (fun _ => .inl ⟨work, rfl⟩) (Nat.le_refl _) (fun _ hr => by cases hr)
        (fun n r => by simp [Holds]) (fun _ _ => Iff.rfl) hover
  | notify name =>
      obtain ⟨c', posted, heq, hover⟩ := exists_handover_notify (hwatcher name)
      show Step x _ (x.notify name)
      rw [heq]
      exact step_hand (absurd rfl) (Nat.le_refl _) (fun _ => nofun)
        (fun n r => by simp [Holds]) (fun _ _ => Iff.rfl) hover
  | disconnect name =>
      obtain ⟨c', posted, heq, hover⟩ := exists_handover_disconnect (hwatcher name)
      show Step x _ (x.disconnect name)
      rw [heq]
      exact step_hand (absurd rfl) (Nat.le_refl _) (fun _ => nofun)
        (fun n r => by simp [Holds]) (fun _ _ => Iff.rfl) hover
  | receive name =>
      refine step_receiver _ name ?_
      unfold Channel.receive
      split <;> exact ⟨rfl, rfl, rfl⟩
  | close name =>
      refine step_receiver _ name ?_
      unfold Channel.close
      split <;> exact ⟨rfl, rfl, rfl⟩
  | dropReceiver name => exact step_receiver _ name ⟨rfl, rfl, rfl⟩

end Exchange

end Cadence.Broadcast
