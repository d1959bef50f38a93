import Cadence.Proofs.Broadcast.Punctuality

/-! # Effects on a dispatcher and its agenda

What happens to a session is a deed, or that work is taken back by whoever put it
off. Either leads from one state of the dispatcher and its agenda to the next in
one of a few ways, and adds its share to what is counted over a run.
-/

namespace Cadence.Broadcast

/-- What is counted over a run: the records that were there at accepted broadcasts,
the fan-outs that were called for and found a record, the broadcasts that came to a
verdict by the clock, and the notifications. -/
@[ext] structure Tally where
  summoned : Nat := 0
  requested : Nat := 0
  judged : Nat := 0
  notified : Nat := 0
deriving DecidableEq

namespace Tally

/-- The sum of two tallies. -/
def add (c c' : Tally) : Tally :=
  ⟨c.summoned + c'.summoned, c.requested + c'.requested, c.judged + c'.judged,
    c.notified + c'.notified⟩

instance : Add Tally := ⟨add⟩

@[simp] theorem summoned_add (c c' : Tally) : (c + c').summoned = c.summoned + c'.summoned := rfl

@[simp] theorem requested_add (c c' : Tally) :
    (c + c').requested = c.requested + c'.requested := rfl

@[simp] theorem judged_add (c c' : Tally) : (c + c').judged = c.judged + c'.judged := rfl

@[simp] theorem notified_add (c c' : Tally) : (c + c').notified = c.notified + c'.notified := rfl

end Tally

section Outcomes

variable {ε κ : Type}

/-- The verdict of a broadcast, if a deed led to one. -/
def Outcome.verdict? (out : Result ε κ) : Option Verdict :=
  match out.signal with
  | .answered (.verdict verdict) => some verdict
  | _ => none

/-- The call that the dispatcher makes, if a deed led to one. -/
def Outcome.call? (out : Result ε κ) : Option (Call ε κ) :=
  match out.signal with
  | .called call => some call
  | _ => none

/-- Whether a deed led to a notification. -/
def Outcome.notifies (out : Result ε κ) : Bool :=
  match out.call? with
  | some (.notify _) => true
  | _ => false

theorem Outcome.notifies_of_call? {out : Result ε κ} {told : Option ε}
    (h : out.call? = told.map Call.notify) : out.notifies = told.isSome := by
  unfold notifies
  rw [h]
  cases told <;> rfl

/-- A dispatcher that notified a listener or not. -/
def Dispatcher.told (d : Dispatcher ε) (notified : Bool) : Dispatcher ε :=
  if notified then d.countNotification else d

end Outcomes

namespace Session

variable {ε κ : Type}

/-- Whether a happening calls for a fan-out that finds a record. -/
def requests (s : OnAgenda ε κ) : Happening ε κ → Bool
  | .deed (.move _ (.dispatch origin)) =>
      s.standing = .owned ∧ (s.dispatcher.record? origin).isSome
  | _ => false

/-- What the outcome of a happening adds to the tally. -/
def share (s : OnAgenda ε κ) (h : Happening ε κ) (out : Result ε κ) : Tally where
  summoned := if out.verdict? = some .accepted then s.dispatcher.originCount else 0
  requested := if s.requests h then 1 else 0
  judged := if out.verdict? = some .accepted ∨ out.verdict? = some .suppressed then 1 else 0
  notified := if out.notifies then 1 else 0

/-- What is counted in the course of some happenings. -/
def tally (s : OnAgenda ε κ) : List (Happening ε κ) → Tally
  | [] => {}
  | h :: rest => s.share h (s.undergo h) + (s.undergo h).session.tally rest

theorem tally_concat (s : OnAgenda ε κ) (run : List (Happening ε κ)) (h : Happening ε κ) :
    s.tally (run ++ [h]) = s.tally run + (s.course run).share h ((s.course run).undergo h) := by
  induction run generalizing s with
  | nil => ext <;> simp [tally, course]
  | cons first rest ih =>
      rw [List.cons_append, tally, tally, ih, course_cons]
      ext <;> simp [Nat.add_assoc]

end Session

/-! ## Effects -/

/-- What a happening does to the dispatcher and its agenda as long as the dispatcher does not
go away, what it adds to the tally, and which call the dispatcher makes. -/
inductive Effect {ε κ : Type} (s : OnAgenda ε κ) (h : Happening ε κ) (share : Tally)
    (call : Option (Call ε κ)) (s' : OnAgenda ε κ) : Prop
  /-- Nothing. -/
  | rest (dispatcher : s'.dispatcher = s.dispatcher) (timers : s'.timers = s.timers)
      (counted : share = {}) (calls : call = none)
  /-- The interval is asked for. -/
  | resolve (dispatcher : s'.dispatcher = s.dispatcher.resolveInterval.2.1)
      (timers : s'.timers = s.timers) (counted : share = {}) (calls : call = none)
  /-- A listener is registered and handed its registration. -/
  | enroll (route : Route) (origin : Origin) (endpoint : ε)
      (asked : h = .deed (.move route (.add origin endpoint))) (held : s.standing = .owned)
      (dispatcher : s'.dispatcher = (s.dispatcher.add origin endpoint).2.1)
      (timers : s'.timers = s.timers) (counted : share = {})
      (calls : call = some (.install endpoint ⟨origin, s.dispatcher.nextEndpoint⟩))
  /-- A registration is taken back. -/
  | strike (route : Route) (r : Registration)
      (asked : (h = .deed (.move route (.remove r)) ∧ s.standing = .owned) ∨
        h = .deed (.move route (.disconnect r)))
      (dispatcher : s'.dispatcher = (s.dispatcher.remove r).1)
      (timers : s'.timers = s.timers) (counted : share = {}) (calls : call = none)
  /-- A broadcast falls into the interval after the last one. -/
  | suppress (dispatcher : s'.dispatcher = s.dispatcher.resolveInterval.2.1.suppressing)
      (timers : s'.timers = s.timers) (counted : share = { judged := 1 }) (calls : call = none)
  /-- A broadcast is accepted and schedules a fan-out for each record. -/
  | accept (route : Route) (now : Span) (clock : s.timers.clock = some now)
      (spaced : s.dispatcher.resolveInterval.2.1.debounced s.dispatcher.resolveInterval.1 now =
        false)
      (state : (s'.dispatcher, s'.timers) =
        (route.visit (s.dispatcher.records.map Prod.fst)).foldl Dispatcher.scheduleFanOut
          (s.dispatcher.resolveInterval.2.1.accepting now, s.timers))
      (counted : share = { summoned := s.dispatcher.originCount, judged := 1 })
      (calls : call = none)
  /-- A fan-out that was called for begins. -/
  | call (origin : Origin) (told : Option ε)
      (dispatcher : s'.dispatcher = (s.dispatcher.startFanOut origin none).2.1.told told.isSome)
      (timers : s'.timers = s.timers)
      (counted : share =
        { requested := if (s.dispatcher.record? origin).isSome then 1 else 0
          notified := if told.isSome then 1 else 0 })
      (calls : call = told.map Call.notify)
  /-- A scheduled fan-out begins. -/
  | fire (route : Route) (drive : Agenda.Drive) (rest : List (Frame Agenda.Drive))
      (e : Entry (Errand κ)) (b : Agenda (Errand κ)) (origin : Origin) (ticket : Ticket)
      (told : Option ε) (turn : h = .deed (.move route .proceed))
      (before : s.frames = .travelling drive :: rest)
      (due : s.timers.popDue drive.limit = some (e, b)) (task : e.task = .fanOut origin ticket)
      (dispatcher : s'.dispatcher =
        (s.dispatcher.startFanOut origin (some ticket)).2.1.told told.isSome)
      (timers : s'.timers = b.started e)
      (counted : share = { notified := if told.isSome then 1 else 0 })
      (calls : call = told.map Call.notify)
  /-- A fan-out goes on to its next listener. -/
  | next (endpoint : ε) (dispatcher : s'.dispatcher = s.dispatcher.countNotification)
      (timers : s'.timers = s.timers) (counted : share = { notified := 1 })
      (calls : call = some (.notify endpoint))
  /-- Somebody puts work off. -/
  | post (delay : Span) (work : κ) (asked : h = .deed (.post delay work))
      (dispatcher : s'.dispatcher = s.dispatcher)
      (timers : s'.timers = (s.timers.schedule delay (.posted work)).2) (counted : share = {})
      (calls : call = none)
  /-- Somebody takes work back. -/
  | withdraw (id : TaskId) (asked : h = .withdraw id) (dispatcher : s'.dispatcher = s.dispatcher)
      (timers : s'.timers = Broadcast.withdraw s.timers id) (counted : share = {})
      (calls : call = none)
  /-- Posted work runs. -/
  | work (limit : Span) (e : Entry (Errand κ)) (b : Agenda (Errand κ)) (work : κ)
      (due : s.timers.popDue limit = some (e, b)) (task : e.task = .posted work)
      (dispatcher : s'.dispatcher = s.dispatcher) (timers : s'.timers = b.started e)
      (counted : share = {}) (calls : call = some (.work work))
  /-- A drive ends. -/
  | arrive (drive : Agenda.Drive) (dispatcher : s'.dispatcher = s.dispatcher)
      (timers : s'.timers = s.timers.settled drive) (counted : share = {}) (calls : call = none)

namespace Session

variable {ε κ : Type} {s u : OnAgenda ε κ} {h : Happening ε κ}

/-- What a happening leads to has an effect, unless the dispatcher goes away. -/
def Affects (s : OnAgenda ε κ) (h : Happening ε κ) (out : Result ε κ) : Prop :=
  out.session.standing ≠ .closed → Effect s h (s.share h out) out.call? out.session

/-- What neither judges a broadcast nor is called for as a fan-out counts at most a
notification. -/
theorem share_of_quiet {out : Result ε κ} (told : Option ε) (hverdict : out.verdict? = none)
    (hrequests : s.requests h = false) (hcall : out.call? = told.map Call.notify) :
    s.share h out = { notified := if told.isSome then 1 else 0 } := by
  simp [share, hverdict, hrequests, Outcome.notifies_of_call? hcall]

theorem answer_of_alive {notes : List Note} {answer : Answer}
    (halive : (u.answer notes answer : Result ε κ).session.standing ≠ .closed) :
    (u.answer notes answer : Result ε κ) =
      { session := u, notes, signal := .answered answer } := by
  unfold Session.answer at halive ⊢
  split at halive
  next => exact absurd rfl halive
  next hheld => rw [if_neg hheld]

/-- A fan-out that goes on counts the notification that it makes. -/
theorem fan_of_alive {notes : List Note} {entrance : Entrance} {origin : Origin}
    {ids : List EndpointId} {out : Result ε κ} (hout : out = u.fan notes entrance origin ids)
    (halive : out.session.standing ≠ .closed) :
    ∃ told : Option ε, out.session.dispatcher = u.dispatcher.told told.isSome ∧
      out.session.timers = u.timers ∧ out.verdict? = none ∧ out.call? = told.map Call.notify := by
  unfold fan at hout
  split at hout
  next id endpoint later hnext => exact ⟨some endpoint, hout ▸ ⟨rfl, rfl, rfl, rfl⟩⟩
  next =>
    cases entrance with
    | task _ => exact ⟨none, hout ▸ ⟨rfl, rfl, rfl, rfl⟩⟩
    | request =>
        dsimp only at hout
        rw [hout] at halive
        rw [hout, answer_of_alive halive]
        exact ⟨none, rfl, rfl, rfl, rfl⟩

/-- A fan-out that begins is counted, and so is the notification that it makes. -/
theorem affects_fanOut {notes : List Note} {entrance : Entrance} {origin : Origin}
    (heffect : ∀ (out : Result ε κ) (told : Option ε),
      out.session.dispatcher =
        (u.dispatcher.startFanOut origin entrance.ticket?).2.1.told told.isSome →
      out.session.timers = u.timers → out.verdict? = none → out.call? = told.map Call.notify →
      Effect s h (s.share h out) out.call? out.session) :
    s.Affects h (u.fanOut notes entrance origin : Result ε κ) := by
  intro halive
  obtain ⟨logged, hfan⟩ := u.fanOut_eq (κ := κ) notes entrance origin
  obtain ⟨told, hdispatcher, htimers, hverdict, hcall⟩ := fan_of_alive hfan halive
  exact heffect _ told hdispatcher htimers hverdict hcall

theorem affects_answer {notes : List Note} {answer : Answer}
    (hquiet : s.requests h = false) (hverdict : ∀ verdict, answer ≠ .verdict verdict)
    (heffect : Effect s h {} none u) : s.Affects h (u.answer notes answer) := by
  intro halive
  rw [answer_of_alive halive]
  have hnone : ({ session := u, notes, signal := .answered answer } : Result ε κ).verdict? =
      none := by
    unfold Outcome.verdict?
    cases answer with
    | verdict verdict => exact absurd rfl (hverdict verdict)
    | _ => rfl
  have hshare := share_of_quiet none hnone hquiet rfl
  rw [hshare]
  exact heffect

theorem affects_resume (s : OnAgenda ε κ) (route : Route) :
    s.Affects (.deed (.move route .resume)) (s.resume : Result ε κ) := by
  unfold resume
  split
  next entrance origin last ids rest hframes =>
    intro halive
    generalize hout : ({ s with frames := rest } : OnAgenda ε κ).fan [] entrance origin ids =
      out at halive ⊢
    obtain ⟨told, hdispatcher, htimers, hverdict, hcall⟩ := fan_of_alive hout.symm halive
    rw [share_of_quiet told hverdict rfl hcall]
    cases told with
    | some endpoint => exact .next endpoint hdispatcher htimers rfl hcall
    | none => exact .rest hdispatcher htimers rfl hcall
  next id rest hframes => exact affects_answer rfl (fun _ => nofun) (.rest rfl rfl rfl rfl)
  next => exact fun _ => .rest rfl rfl rfl rfl
  next => exact fun _ => .rest rfl rfl rfl rfl

theorem affects_proceed (s : OnAgenda ε κ) (route : Route) :
    s.Affects (.deed (.move route .proceed)) (s.proceed : Result ε κ) := by
  unfold proceed
  split
  next drive rest hframes =>
    cases hpop : s.timers.popDue drive.limit with
    | some found =>
        obtain ⟨e, b⟩ := found
        have hturn : Timeline.turn s.timers drive = _ := Agenda.turn_of_popDue_eq_some hpop
        rw [hturn]
        dsimp only
        cases htask : e.task with
        | fanOut origin ticket =>
            dsimp only
            refine affects_fanOut fun out told hdispatcher htimers hverdict hcall => ?_
            rw [share_of_quiet told hverdict rfl hcall]
            exact .fire route drive rest e b origin ticket told rfl hframes hpop htask
              hdispatcher htimers rfl hcall
        | posted work => exact fun _ => .work drive.limit e b work hpop htask rfl rfl rfl rfl
    | none =>
        have hturn : Timeline.turn s.timers drive = _ := Agenda.turn_of_popDue_eq_none hpop
        rw [hturn]
        exact fun _ => .arrive drive rfl rfl rfl rfl
  next => exact fun _ => .rest rfl rfl rfl rfl

theorem affects_dispatch (s : OnAgenda ε κ) (route : Route) (origin : Origin)
    (howned : s.standing = .owned) :
    s.Affects (.deed (.move route (.dispatch origin)))
      (s.fanOut [] .request origin : Result ε κ) := by
  refine affects_fanOut fun out told hdispatcher htimers hverdict hcall => ?_
  refine .call origin told hdispatcher htimers ?_ hcall
  simp [share, hverdict, requests, howned, Outcome.notifies_of_call? hcall]

theorem affects_broadcast (s : OnAgenda ε κ) (route : Route) :
    s.Affects (.deed (.move route .broadcast)) (s.broadcast route.visit : Result ε κ) := by
  have hrecords := s.dispatcher.resolveInterval_kept.records
  unfold broadcast Dispatcher.broadcast
  dsimp only
  split
  next =>
    -- the interval was asked for all the same
    intro halive
    rw [answer_of_alive halive]
    exact .resolve rfl rfl rfl rfl
  next now hclock =>
    split
    next =>
      intro halive
      rw [answer_of_alive halive]
      exact .suppress rfl rfl rfl rfl
    next hspaced =>
      intro halive
      rw [answer_of_alive halive]
      refine .accept route now hclock (by simpa using hspaced) ?_ rfl rfl
      rw [← hrecords]
      rfl

theorem affects_letGo (s : OnAgenda ε κ) (route : Route) :
    s.Affects (.deed (.move route .letGo)) (s.letGo : Result ε κ) := by
  unfold letGo
  split
  next => exact fun _ => .rest rfl rfl rfl rfl
  next =>
    split
    next => exact fun _ => .rest rfl rfl rfl rfl
    next => exact fun halive => absurd rfl halive

theorem affects_travel (s : OnAgenda ε κ) (route : Route) (t : Travel) :
    s.Affects (.deed (.move route (.travel t))) (s.travel t : Result ε κ) := by
  unfold travel
  split <;> exact fun _ => .rest rfl rfl rfl rfl

theorem affects_perform (s : OnAgenda ε κ) (route : Route) (m : Move ε) :
    s.Affects (.deed (.move route m)) (s.perform route.visit m : Result ε κ) := by
  unfold perform
  split
  next hgone =>
    -- what needs the dispatcher is refused, and a fan-out that is refused does not count
    refine fun _ => .rest rfl rfl ?_ rfl
    refine share_of_quiet none rfl ?_ rfl
    cases m with
    | dispatch origin => simp [requests, hgone.2]
    | _ => rfl
  next hheld =>
    have howned : Move.needsDispatcher m → s.standing = .owned := fun hneeds =>
      Decidable.byContradiction fun hnot => hheld ⟨hneeds, hnot⟩
    cases m with
    | add origin endpoint =>
        exact fun _ => .enroll route origin endpoint rfl (howned rfl) rfl rfl rfl rfl
    | broadcast => exact s.affects_broadcast route
    | dispatch origin => exact s.affects_dispatch route origin (howned rfl)
    | remove r =>
        exact affects_answer rfl (fun _ => nofun)
          (.strike route r (.inl ⟨rfl, howned rfl⟩) rfl rfl rfl rfl)
    | resolve => exact affects_answer rfl (fun _ => nofun) (.resolve rfl rfl rfl rfl)
    | disconnect r => exact fun _ => .strike route r (.inr rfl) rfl rfl rfl rfl
    | letGo => exact s.affects_letGo route
    | travel t => exact s.affects_travel route t
    | resume => exact s.affects_resume route
    | proceed => exact s.affects_proceed route

/-- What happens while the dispatcher does not go away has an effect. -/
theorem effect_undergo (s : OnAgenda ε κ) (h : Happening ε κ)
    (halive : (s.undergo h).session.standing ≠ .closed) :
    Effect s h (s.share h (s.undergo h)) (s.undergo h).call? (s.undergo h).session := by
  cases h with
  | withdraw id => exact .withdraw id rfl rfl rfl rfl rfl
  | deed deed =>
      cases deed with
      | move route m => exact s.affects_perform route m halive
      | post delay work => exact .post delay work rfl rfl rfl rfl rfl

/-! ## The records of a dispatcher that has gone away -/

/-- A dispatcher that has gone away has no records. -/
def Vacated (s : OnAgenda ε κ) : Prop := s.standing = .closed → s.dispatcher.records = []

theorem Vacated.of_held (h : s.standing = .owned) : s.Vacated :=
  fun hclosed => absurd (h.symm.trans hclosed) nofun

theorem Vacated.answer (h : u.Vacated) (notes : List Note) (answer : Answer) :
    (u.answer notes answer : Result ε κ).session.Vacated := by
  unfold Session.answer
  split
  next => exact fun _ => rfl
  next => exact h

theorem Vacated.fan (h : u.Vacated) (notes : List Note) (entrance : Entrance) (origin : Origin)
    (ids : List EndpointId) : (u.fan notes entrance origin ids : Result ε κ).session.Vacated := by
  unfold Session.fan
  split
  next => exact h
  next =>
    cases entrance with
    | request => exact h.answer notes .done
    | task _ => exact h

theorem Vacated.fanOut (h : u.Vacated) (notes : List Note) (entrance : Entrance)
    (origin : Origin) : (u.fanOut notes entrance origin : Result ε κ).session.Vacated := by
  obtain ⟨logged, hfan⟩ := u.fanOut_eq (κ := κ) notes entrance origin
  rw [hfan]
  refine Vacated.fan (fun hclosed => ?_) _ _ _ _
  exact (u.dispatcher.startFanOut_kept origin entrance.ticket?).records.trans (h hclosed)

theorem Vacated.proceed (h : s.Vacated) : (s.proceed : Result ε κ).session.Vacated := by
  unfold Session.proceed
  split
  next drive rest hframes =>
    split
    next task events timers drive' hturn =>
      cases task with
      | fanOut origin ticket =>
          refine Vacated.fanOut ?_ _ _ _
          exact h
      | posted work => exact h
    next => exact h
  next => exact h

theorem Vacated.act (h : s.Vacated) (deed : Deed ε κ) : (s.act deed).session.Vacated := by
  cases deed with
  | post delay work => exact h
  | move route m =>
      unfold Session.act Session.perform
      dsimp only
      split
      next => exact h
      next hopen =>
        -- whatever needs the dispatcher is done while the owner holds it
        have hheld : Move.needsDispatcher m = true → s.standing = .owned := fun hneeds =>
          not_not.mp fun hother => hopen ⟨hneeds, hother⟩
        cases m with
        | add origin endpoint => exact Vacated.of_held (hheld rfl)
        | broadcast =>
            refine Vacated.answer ?_ _ _
            exact Vacated.of_held (hheld rfl)
        | dispatch origin => exact h.fanOut _ _ _
        | remove r =>
            refine Vacated.answer ?_ _ _
            exact Vacated.of_held (hheld rfl)
        | resolve =>
            refine Vacated.answer ?_ _ _
            exact Vacated.of_held (hheld rfl)
        | disconnect r =>
            intro hclosed
            have hgone : r.id ∉ s.dispatcher.registered r.origin := by
              have hnone := h hclosed
              simp [Dispatcher.registered, Dispatcher.record?, hnone]
            show (s.dispatcher.remove r).1.records = []
            rw [Dispatcher.remove_of_not_mem hgone]
            exact h hclosed
        | letGo =>
            show (s.letGo : Result ε κ).session.Vacated
            unfold Session.letGo
            split
            next => exact h
            next =>
              split
              next => exact fun hclosed => Standing.noConfusion hclosed
              next => exact fun _ => rfl
        | travel t =>
            show (s.travel t : Result ε κ).session.Vacated
            unfold Session.travel
            split <;> exact h
        | resume =>
            show (s.resume : Result ε κ).session.Vacated
            unfold Session.resume
            split
            next =>
              refine Vacated.fan ?_ _ _ _ _
              exact h
            next =>
              refine Vacated.answer ?_ _ _
              exact h
            next => exact h
            next => exact h
        | proceed => exact h.proceed

theorem Vacated.undergo (h : s.Vacated) (happening : Happening ε κ) :
    (s.undergo happening).session.Vacated := by
  cases happening with
  | deed deed => exact h.act deed
  | withdraw id => exact h

theorem Vacated.course (h : s.Vacated) (run : List (Happening ε κ)) : (s.course run).Vacated := by
  induction run generalizing s with
  | nil => exact h
  | cons happening rest ih => exact ih (h.undergo happening)

end Session

end Cadence.Broadcast
