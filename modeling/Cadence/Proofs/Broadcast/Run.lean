import Cadence.Proofs.Broadcast.Booking
import Cadence.Proofs.Broadcast.Progress

/-! # Runs of a dispatcher session

A run is a list of deeds: moves of the surroundings, each with the order in which
a broadcast would go through the records, and work that others put off on the
same agenda. Among happenings such work is taken back as well. What a deed does to
the registry, the agenda and the stack is one of a few steps, and an orphaned
dispatcher may go away right after it.
-/

namespace Cadence.Broadcast

/-- A notification, and how the fan-out that made it came to run. -/
structure Notification where
  entrance : Entrance
  origin : Origin
  id : EndpointId
  time : Span
deriving DecidableEq

/-- A notification made by a scheduled fan-out. -/
structure Delivery where
  ticket : Ticket
  origin : Origin
  id : EndpointId
  time : Span
deriving DecidableEq

/-- The notification as one of a scheduled fan-out, if it is one. -/
def Notification.delivery? (n : Notification) : Option Delivery :=
  n.entrance.ticket?.map fun ticket => ⟨ticket, n.origin, n.id, n.time⟩

/-- A move of the surroundings, or work that is put off on the dispatcher's agenda. -/
inductive Deed (ε κ : Type)
  | move (route : Route) (move : Move ε)
  | post (delay : Span) (work : κ)

/-- A deed, or work that is taken back by whoever put it off. -/
inductive Happening (ε κ : Type)
  | deed (deed : Deed ε κ)
  | withdraw (id : TaskId)

/-- A session on an agenda. -/
abbrev OnAgenda (ε κ : Type) := Session (Agenda (Errand κ)) Agenda.Drive ε

/-- What a deed leads to on an agenda. -/
abbrev Result (ε κ : Type) := Outcome (Agenda (Errand κ)) Agenda.Drive ε κ

/-- The notification that a deed led to, if it led to one. -/
def Outcome.notification? {ε κ : Type} (out : Result ε κ) : Option Notification :=
  match out.signal, out.session.frames with
  | .called (.notify _), .fanning entrance origin id _ :: _ =>
      some ⟨entrance, origin, id, out.session.timers.elapsed⟩
  | _, _ => none

/-- The notification of a scheduled fan-out that a deed led to, if it led to one. -/
def Outcome.delivery? {ε κ : Type} (out : Result ε κ) : Option Delivery :=
  out.notification?.bind Notification.delivery?

namespace Session

variable {ε κ : Type}

/-- Does one deed. -/
def act (s : OnAgenda ε κ) : Deed ε κ → Result ε κ
  | .move route m => s.perform route.visit m
  | .post delay work =>
      { session := { s with timers := (s.timers.schedule delay (.posted work)).2 } }

/-- The session after some deeds. -/
def after (s : OnAgenda ε κ) (deeds : List (Deed ε κ)) : OnAgenda ε κ :=
  deeds.foldl (fun s deed => (s.act deed).session) s

/-- Undergoes one happening. -/
def undergo (s : OnAgenda ε κ) : Happening ε κ → Result ε κ
  | .deed deed => s.act deed
  | .withdraw id => { session := { s with timers := withdraw s.timers id } }

/-- The session after some happenings. -/
def course (s : OnAgenda ε κ) (run : List (Happening ε κ)) : OnAgenda ε κ :=
  run.foldl (fun s h => (s.undergo h).session) s

/-- The notifications that scheduled fan-outs make in the course of some deeds. -/
def deliveries (s : OnAgenda ε κ) : List (Deed ε κ) → List Delivery
  | [] => []
  | deed :: rest => (s.act deed).delivery?.toList ++ (s.act deed).session.deliveries rest

/-- A session at the beginning. -/
def fresh (intervals : IntervalSource) (delays : DelaySource) : OnAgenda ε κ :=
  { timers := {}, dispatcher := { intervals, delays } }

theorem after_append (s : OnAgenda ε κ) (first second : List (Deed ε κ)) :
    s.after (first ++ second) = (s.after first).after second :=
  List.foldl_append

theorem after_cons (s : OnAgenda ε κ) (deed : Deed ε κ) (rest : List (Deed ε κ)) :
    s.after (deed :: rest) = (s.act deed).session.after rest := rfl

theorem course_append (s : OnAgenda ε κ) (first second : List (Happening ε κ)) :
    s.course (first ++ second) = (s.course first).course second :=
  List.foldl_append

theorem course_cons (s : OnAgenda ε κ) (h : Happening ε κ) (rest : List (Happening ε κ)) :
    s.course (h :: rest) = (s.undergo h).session.course rest := rfl

theorem course_concat (s : OnAgenda ε κ) (run : List (Happening ε κ)) (h : Happening ε κ) :
    s.course (run ++ [h]) = ((s.course run).undergo h).session :=
  s.course_append run [h]

/-- A run of deeds is a course of happenings in which no work is taken back. -/
theorem course_deeds (s : OnAgenda ε κ) (deeds : List (Deed ε κ)) :
    s.course (deeds.map .deed) = s.after deeds :=
  List.foldl_map

theorem deliveries_append (s : OnAgenda ε κ) (first second : List (Deed ε κ)) :
    s.deliveries (first ++ second) = s.deliveries first ++ (s.after first).deliveries second := by
  induction first generalizing s with
  | nil => rfl
  | cons deed rest ih => simp only [List.cons_append, deliveries, ih, List.append_assoc, after_cons]

end Session

/-- What happens to a session in one deed, apart from counters and logs. Whether the
surroundings start a drive is said by `travels`. -/
inductive Step {ε κ : Type} (travels : Prop) :
    OnAgenda ε κ → OnAgenda ε κ → Option Notification → Prop
  /-- Nothing that matters here. -/
  | rest {s s' : OnAgenda ε κ} (kept : s.dispatcher.Kept s'.dispatcher)
      (timers : s'.timers = s.timers) (frames : s'.frames = s.frames) : Step travels s s' none
  /-- A listener is registered. -/
  | enroll {s s' : OnAgenda ε κ} (origin : Origin) (endpoint : ε)
      (dispatcher : s'.dispatcher = (s.dispatcher.add origin endpoint).2.1)
      (timers : s'.timers = s.timers)
      (frames : s'.frames = .installing s.dispatcher.nextEndpoint :: s.frames) :
      Step travels s s' none
  /-- A registration is taken back. -/
  | strike {s s' : OnAgenda ε κ} (registration : Registration)
      (dispatcher : s'.dispatcher = (s.dispatcher.remove registration).1)
      (timers : s'.timers = s.timers) (frames : s'.frames = s.frames) : Step travels s s' none
  /-- A broadcast schedules a fan-out for each record. -/
  | scatter {s s' : OnAgenda ε κ} (origins : List Origin)
      (visited : origins.Perm (s.dispatcher.records.map Prod.fst))
      (scattered : Scattered s.dispatcher s.timers origins s'.dispatcher s'.timers)
      (frames : s'.frames = s.frames) : Step travels s s' none
  /-- Somebody puts work off. -/
  | post {s s' : OnAgenda ε κ} (delay : Span) (work : κ) (kept : s.dispatcher.Kept s'.dispatcher)
      (timers : s'.timers = (s.timers.schedule delay (.posted work)).2)
      (frames : s'.frames = s.frames) : Step travels s s' none
  /-- A drive starts. -/
  | depart {s s' : OnAgenda ε κ} (asked : travels) (drive : Agenda.Drive) (aimed : drive.Aimed)
      (kept : s.dispatcher.Kept s'.dispatcher) (timers : s'.timers = s.timers)
      (frames : s'.frames = .travelling drive :: s.frames) : Step travels s s' none
  /-- A call returns, and nobody is left whom its fan-out could notify. -/
  | back {s s' : OnAgenda ε κ} (frame : Frame Agenda.Drive)
      (kept : s.dispatcher.Kept s'.dispatcher) (timers : s'.timers = s.timers)
      (frames : s.frames = frame :: s'.frames) (still : ∀ drive, frame ≠ .travelling drive)
      (through : ∀ entrance origin last ids, frame = .fanning entrance origin last ids →
        ∀ id ∈ ids, id ∉ s.dispatcher.registered origin) : Step travels s s' none
  /-- A fan-out goes on to its next listener. -/
  | next {s s' : OnAgenda ε κ} (entrance : Entrance) (origin : Origin) (last id : EndpointId)
      (passed later : List EndpointId) (rest : List (Frame Agenda.Drive))
      (kept : s.dispatcher.Kept s'.dispatcher) (timers : s'.timers = s.timers)
      (before : s.frames = .fanning entrance origin last (passed ++ id :: later) :: rest)
      (gone : ∀ x ∈ passed, x ∉ s.dispatcher.registered origin)
      (here : id ∈ s.dispatcher.registered origin)
      (frames : s'.frames = .fanning entrance origin id later :: rest) :
      Step travels s s' (some ⟨entrance, origin, id, s'.timers.elapsed⟩)
  /-- A fan-out that was called for notifies its first listener. -/
  | call {s s' : OnAgenda ε κ} (origin : Origin) (id : EndpointId) (later : List EndpointId)
      (kept : s.dispatcher.Kept s'.dispatcher) (timers : s'.timers = s.timers)
      (registered : s.dispatcher.registered origin = id :: later)
      (frames : s'.frames = .fanning .request origin id later :: s.frames) :
      Step travels s s' (some ⟨.request, origin, id, s'.timers.elapsed⟩)
  /-- A scheduled fan-out notifies its first listener. -/
  | fire {s s' : OnAgenda ε κ} (drive : Agenda.Drive) (rest : List (Frame Agenda.Drive))
      (e : Entry (Errand κ)) (b : Agenda (Errand κ)) (origin : Origin) (ticket : Ticket)
      (id : EndpointId) (later : List EndpointId) (kept : s.dispatcher.Kept s'.dispatcher)
      (before : s.frames = .travelling drive :: rest)
      (due : s.timers.popDue drive.limit = some (e, b)) (task : e.task = .fanOut origin ticket)
      (registered : s.dispatcher.registered origin = id :: later)
      (timers : s'.timers = b.started e)
      (frames : s'.frames = .fanning (.task ticket) origin id later ::
        .travelling { drive with ran := drive.ran + 1 } :: rest) :
      Step travels s s' (some ⟨.task ticket, origin, id, s'.timers.elapsed⟩)
  /-- A scheduled fan-out finds no listener. -/
  | miss {s s' : OnAgenda ε κ} (drive : Agenda.Drive) (rest : List (Frame Agenda.Drive))
      (e : Entry (Errand κ)) (b : Agenda (Errand κ)) (origin : Origin) (ticket : Ticket)
      (kept : s.dispatcher.Kept s'.dispatcher) (before : s.frames = .travelling drive :: rest)
      (due : s.timers.popDue drive.limit = some (e, b)) (task : e.task = .fanOut origin ticket)
      (registered : s.dispatcher.registered origin = []) (timers : s'.timers = b.started e)
      (frames : s'.frames = .travelling { drive with ran := drive.ran + 1 } :: rest) :
      Step travels s s' none
  /-- Posted work runs. -/
  | work {s s' : OnAgenda ε κ} (drive : Agenda.Drive) (rest : List (Frame Agenda.Drive))
      (e : Entry (Errand κ)) (b : Agenda (Errand κ)) (work : κ)
      (kept : s.dispatcher.Kept s'.dispatcher) (before : s.frames = .travelling drive :: rest)
      (due : s.timers.popDue drive.limit = some (e, b)) (task : e.task = .posted work)
      (timers : s'.timers = b.started e)
      (frames : s'.frames = .working ::
        .travelling { drive with ran := drive.ran + 1 } :: rest) : Step travels s s' none
  /-- A drive ends. -/
  | arrive {s s' : OnAgenda ε κ} (drive : Agenda.Drive) (kept : s.dispatcher.Kept s'.dispatcher)
      (before : s.frames = .travelling drive :: s'.frames)
      (idle : s.timers.popDue drive.limit = none)
      (timers : s'.timers = s.timers.settled drive) : Step travels s s' none

/-- A deed is one step, after which an orphaned dispatcher may go away. -/
def Leads {ε κ : Type} (travels : Prop) (s : OnAgenda ε κ) (out : Result ε κ) : Prop :=
  ∃ u, Step travels s u out.notification? ∧
    (out.session = u ∨ (out.notification? = none ∧ out.session = u.close.1))

namespace Session

variable {ε κ : Type} {travels : Prop}

theorem leads_of_step {s : OnAgenda ε κ} {out : Result ε κ}
    (h : Step travels s out.session out.notification?) : Leads travels s out :=
  ⟨out.session, h, .inl rfl⟩

/-- Answering a caller may let an orphaned dispatcher go. -/
theorem leads_answer {s u : OnAgenda ε κ} (hstep : Step travels s u none) (notes : List Note)
    (answer : Answer) : Leads travels s (u.answer notes answer : Result ε κ) := by
  unfold Session.answer
  split
  next => exact ⟨u, hstep, .inr ⟨rfl, rfl⟩⟩
  next => exact ⟨u, hstep, .inl rfl⟩

/-- A fan-out goes on to a listener that is still registered, or ends. -/
theorem leads_fan {s u : OnAgenda ε κ} {entrance : Entrance} {origin : Origin}
    {ids : List EndpointId} (notes : List Note)
    (hnext : ∀ id endpoint later,
      u.dispatcher.nextListener origin ids = some (id, endpoint, later) →
      Step travels s { u with
          dispatcher := u.dispatcher.countNotification
          frames := .fanning entrance origin id later :: u.frames }
        (some ⟨entrance, origin, id, u.timers.elapsed⟩))
    (hnone : u.dispatcher.nextListener origin ids = none → Step travels s u none) :
    Leads travels s (u.fan notes entrance origin ids : Result ε κ) := by
  unfold fan
  split
  next id endpoint later hfound =>
    exact ⟨_, hnext id endpoint later hfound, .inl rfl⟩
  next hfound =>
    cases entrance with
    | request => exact leads_answer (hnone hfound) notes .done
    | task ticket => exact ⟨u, hnone hfound, .inl rfl⟩

/-- A fan-out that begins notifies the first listener of its origin. -/
theorem fanOut_of_cons {u : OnAgenda ε κ} {origin : Origin} {id : EndpointId}
    {later : List EndpointId} (notes : List Note) (entrance : Entrance)
    (hids : u.dispatcher.registered origin = id :: later) :
    ∃ endpoint logged, (u.fanOut notes entrance origin : Result ε κ) =
      { session := { u with
          dispatcher := (u.dispatcher.startFanOut origin entrance.ticket?).2.1.countNotification
          frames := .fanning entrance origin id later :: u.frames }
        notes := logged
        signal := .called (.notify endpoint) } := by
  obtain ⟨logged, hfan⟩ := u.fanOut_eq (κ := κ) notes entrance origin
  have hkept := u.dispatcher.startFanOut_kept origin entrance.ticket?
  rw [hfan, ← Dispatcher.registered_congr hkept.records]
  rw [← Dispatcher.registered_congr hkept.records] at hids
  generalize (u.dispatcher.startFanOut origin entrance.ticket?).2.1 = d at hids ⊢
  rcases d.nextListener_registered origin with ⟨_, hempty⟩ | ⟨x, endpoint, rest, hnext, hcons⟩
  · rw [hempty] at hids
    cases hids
  · rw [hcons] at hids
    cases hids
    unfold fan
    rw [hnext]
    exact ⟨endpoint, _, rfl⟩

/-- A fan-out that begins without listeners is over. -/
theorem fanOut_of_nil {u : OnAgenda ε κ} {origin : Origin} (notes : List Note)
    (entrance : Entrance) (hids : u.dispatcher.registered origin = []) :
    ∃ logged, (u.fanOut notes entrance origin : Result ε κ) =
      { u with dispatcher := (u.dispatcher.startFanOut origin entrance.ticket?).2.1 }.fan logged
        entrance origin [] := by
  obtain ⟨logged, hfan⟩ := u.fanOut_eq (κ := κ) notes entrance origin
  exact ⟨logged, hids ▸ hfan⟩

theorem leads_fanOut {s u : OnAgenda ε κ} {entrance : Entrance} {origin : Origin}
    (notes : List Note)
    (hcall : ∀ d id later, u.dispatcher.Kept d → u.dispatcher.registered origin = id :: later →
      Step travels s
        { u with dispatcher := d, frames := .fanning entrance origin id later :: u.frames }
        (some ⟨entrance, origin, id, u.timers.elapsed⟩))
    (hnone : ∀ d, u.dispatcher.Kept d → u.dispatcher.registered origin = [] →
      Step travels s { u with dispatcher := d } none) :
    Leads travels s (u.fanOut notes entrance origin : Result ε κ) := by
  have hkept := u.dispatcher.startFanOut_kept origin entrance.ticket?
  cases hids : u.dispatcher.registered origin with
  | nil =>
      obtain ⟨logged, hfan⟩ := u.fanOut_of_nil (κ := κ) notes entrance hids
      rw [hfan]
      exact leads_fan logged (fun _ _ _ => nofun) fun _ => hnone _ hkept hids
  | cons id later =>
      obtain ⟨endpoint, logged, hfan⟩ := u.fanOut_of_cons (κ := κ) notes entrance hids
      rw [hfan]
      exact leads_of_step (hcall _ id later hkept.countNotification hids)

theorem leads_proceed (s : OnAgenda ε κ) : Leads travels s (s.proceed : Result ε κ) := by
  unfold proceed
  split
  next drive rest hframes =>
    cases hpop : s.timers.popDue drive.limit with
    | some found =>
        obtain ⟨e, b⟩ := found
        have hturn : Timeline.turn s.timers drive = _ := Agenda.turn_of_popDue_eq_some hpop
        rw [hturn]
        dsimp only
        cases htask : e.task with
        | fanOut origin ticket =>
            refine leads_fanOut _ ?_ ?_
            · intro d id later hkept hids
              exact .fire drive rest e b origin ticket id later hkept hframes hpop htask hids rfl
                rfl
            · intro d hkept hids
              exact .miss drive rest e b origin ticket hkept hframes hpop htask hids rfl rfl
        | posted work =>
            exact leads_of_step (.work drive rest e b work (.refl _) hframes hpop htask rfl rfl)
    | none =>
        have hturn : Timeline.turn s.timers drive = _ := Agenda.turn_of_popDue_eq_none hpop
        rw [hturn]
        exact leads_of_step (.arrive drive (.refl _) hframes hpop rfl)
  next => exact leads_of_step (.rest (.refl _) rfl rfl)

theorem leads_resume (s : OnAgenda ε κ) : Leads travels s (s.resume : Result ε κ) := by
  unfold resume
  split
  next entrance origin last ids rest hframes =>
    refine leads_fan [] ?_ ?_
    · intro id endpoint later hfound
      obtain ⟨passed, rfl, hpassed, hid⟩ := Dispatcher.nextListener_eq_some hfound
      exact .next entrance origin last id passed later rest ⟨rfl, rfl, rfl⟩ rfl hframes hpassed hid
        rfl
    · intro hfound
      refine .back (.fanning entrance origin last ids) (.refl _) rfl hframes (fun _ => nofun) ?_
      rintro _ _ _ _ heq id hid
      cases heq
      exact Dispatcher.nextListener_eq_none hfound id hid
  next id rest hframes =>
    refine leads_answer ?_ [] (.registered id)
    exact .back (.installing id) (.refl _) rfl hframes (fun _ => nofun) fun _ _ _ _ => nofun
  next rest hframes =>
    exact leads_of_step (.back .working (.refl _) rfl hframes (fun _ => nofun) fun _ _ _ _ => nofun)
  next => exact leads_of_step (.rest (.refl _) rfl rfl)

theorem leads_broadcast (s : OnAgenda ε κ) (route : Route) :
    Leads travels s (s.broadcast route.visit : Result ε κ) := by
  unfold broadcast
  dsimp only
  refine leads_answer ?_ _ _
  rcases broadcast_cases route s.dispatcher s.timers (Timeline.clock Agenda.Drive s.timers) with
    ⟨_, hkept, htimers⟩ | ⟨_, origins, hvisited, hscattered⟩
  · exact .rest hkept htimers rfl
  · exact .scatter origins hvisited hscattered rfl

/-- Only a deed that asks for a drive starts one. -/
theorem leads_act (s : OnAgenda ε κ) (deed : Deed ε κ) :
    Leads (∃ route t, deed = .move route (.travel t)) s (s.act deed) := by
  cases deed with
  | post delay work => exact leads_of_step (.post delay work (.refl _) rfl rfl)
  | move route m =>
      unfold act perform
      dsimp only
      split
      next => exact leads_of_step (.rest (.refl _) rfl rfl)
      next =>
        cases m with
        | add origin endpoint => exact leads_of_step (.enroll origin endpoint rfl rfl rfl)
        | broadcast => exact leads_broadcast s route
        | dispatch origin =>
            refine leads_fanOut [] ?_ fun d hkept _ => .rest hkept rfl rfl
            exact fun d id later hkept hids => .call origin id later hkept rfl hids rfl
        | remove r =>
            refine leads_answer ?_ _ _
            exact .strike r rfl rfl rfl
        | resolve =>
            refine leads_answer ?_ _ _
            exact .rest s.dispatcher.resolveInterval_kept rfl rfl
        | disconnect r => exact leads_of_step (.strike r rfl rfl rfl)
        | letGo =>
            dsimp only
            unfold letGo
            split
            next => exact leads_of_step (.rest (.refl _) rfl rfl)
            next =>
              split
              next => exact leads_of_step (.rest (.refl _) rfl rfl)
              -- nothing happens but that the dispatcher goes away
              next => exact ⟨s, .rest (.refl _) rfl rfl, .inr ⟨rfl, rfl⟩⟩
        | travel t =>
            dsimp only
            unfold travel
            split
            next drive hdepart =>
              exact leads_of_step (.depart ⟨route, t, rfl⟩ drive (Agenda.depart_aimed hdepart)
                (.refl _) rfl rfl)
            next => exact leads_of_step (.rest (.refl _) rfl rfl)
        | resume => exact leads_resume s
        | proceed => exact leads_proceed s

end Session

end Cadence.Broadcast
