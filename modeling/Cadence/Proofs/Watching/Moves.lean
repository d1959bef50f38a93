import Cadence.Proofs.Broadcast.Conservation
import Cadence.Proofs.Watching.Tended

/-! # Moves of a session with watched listeners

Whatever a session does, watchers and registrations are taken care of. A move may give out
numbers for fan-outs, start a task or call the surroundings; what it calls them for decides
what is in hand until they answer.
-/

namespace Cadence.Broadcast.Dispatcher

/-- A fan-out that begins only leaves those that are in flight. -/
theorem startFanOut_inFlight_subset {ε : Type} (d : Dispatcher ε) (origin : Origin)
    (ticket : Option Ticket) : (d.startFanOut origin ticket).2.1.inFlight ⊆ d.inFlight := by
  cases ticket with
  | none => exact (d.startFanOut_request origin).1 ▸ List.Subset.refl _
  | some ticket =>
      rw [startFanOut_inFlight]
      exact List.eraseP_subset

end Cadence.Broadcast.Dispatcher

namespace Cadence.Rehearsal.Broadcasting

open Cadence.Broadcast
open Executor (Drive Loop Rostered Spared)

variable {role role' : TaskId → Errand Posted} {touched : TaskId → Prop} {log : List String}
  {s s' : LoopSession} {endpoints : List (String × Endpoint)}
  {call call' : Option (Call String Posted)}

/-- What a signal calls the surroundings for. -/
def callOf : Signal String Posted → Option (Call String Posted)
  | .called call => some call
  | _ => none

/-! ## Changes of the dispatcher -/

/-- The dispatcher does something that leaves its registry alone. -/
theorem Tended.still (h : Tended role log s endpoints call)
    (htimers : s'.timers.executor = s.timers.executor)
    (hkept : s.dispatcher.Kept s'.dispatcher)
    (hfanOuts : s'.dispatcher.inFlight ⊆ s.dispatcher.inFlight)
    (hframes : runners s'.frames = runners s.frames)
    (hcall : ∀ k, call = some k → call' = call ∨ Idle endpoints s'.dispatcher k) :
    Tended role log s' endpoints call' := by
  have hpass : Passes role role (fun _ => False) s.timers.executor s'.timers.executor :=
    htimers ▸ Passes.refl role _ _
  refine h.onward _ hpass nofun ?_ (fun x hx => ?_)
    (h.registry.congr hkept.records hkept.nextEndpoint) (fun label r hr => ?_) hcall
  · exact htimers ▸ hframes ▸ h.rostered
  · exact htimers ▸ h.fanOuts x (hfanOuts hx)
  · unfold Enlists at hr ⊢
    rwa [Dispatcher.listener?_congr hkept.records] at hr

/-- Frames without a drive come and go. -/
theorem Tended.reframe (h : Tended role log s endpoints none) {frames : List (Frame Drive)}
    (hframes : runners frames = runners s.frames) (call : Option (Call String Posted)) :
    Tended role log { s with frames } endpoints call :=
  h.still rfl (Dispatcher.Kept.refl _) (List.Subset.refl _) hframes nofun

theorem Tended.remove (h : Tended role log s endpoints call) (r : Registration)
    (hcall : ∀ k, call = some k →
      call' = call ∨ Idle endpoints (s.dispatcher.remove r).1 k) :
    Tended role log { s with dispatcher := (s.dispatcher.remove r).1 } endpoints call' := by
  refine h.onward (fun _ => False) (Passes.refl role _ _) nofun h.rostered
    (fun x hx => ?_) (h.registry.remove r) (fun label other hother => ?_) hcall
  · exact h.fanOuts x ((s.dispatcher.remove_settled r).inFlight ▸ hx)
  · exact (h.registry.listener?_remove_eq_some.mp hother).1

/-- Nobody is registered under what was taken back. -/
theorem not_enlists_remove {d : Dispatcher String} (h : d.Sound) (label : String)
    (r : Registration) : ¬ Enlists (d.remove r).1 label r := fun hr =>
  (h.listener?_remove_eq_some.mp hr).2 ⟨rfl, rfl⟩

theorem cancelled_fold (touched : TaskId → Prop) {running : List TaskId}
    (ids : List (Ticket × TaskId)) {l : Loop (Errand Posted)} (h : Rostered role running l.executor)
    (hids : ∀ x ∈ ids, touched x.2) :
    let l' := ids.foldl (fun l x => TimerService.cancel l x.2) l
    Rostered role running l'.executor ∧ Passes role role touched l.executor l'.executor := by
  induction ids generalizing l with
  | nil => exact ⟨h, Passes.refl role _ _⟩
  | cons x rest ih =>
      obtain ⟨hrostered, hpass⟩ := ih (l := TimerService.cancel l x.2) (h.cancel x.2)
        fun y hy => hids y (List.mem_cons_of_mem _ hy)
      exact ⟨hrostered, (passes_cancel (hids x List.mem_cons_self)).trans hpass⟩

/-- The dispatcher goes away with its fan-outs and its registry. -/
theorem Tended.close (h : Tended role log s endpoints call) :
    Tended role log s.close.1 endpoints call := by
  obtain ⟨hrostered, hpass⟩ := cancelled_fold
    (fun id => ∃ origin ticket, role id = .fanOut origin ticket)
    s.dispatcher.inFlight h.rostered fun x hx => (h.fanOuts x hx).2
  refine h.onward _ hpass (fun _ hid => hid) hrostered nofun
    (Dispatcher.sound_of_no_records rfl) (fun label r hr => ?_) fun _ _ => .inl rfl
  exact absurd hr nofun

/-! ## Answers and fan-outs -/

theorem Tended.answer (h : Tended role log s endpoints none) (notes : List Note)
    (answer : Answer) :
    let out : Outcome _ _ _ Posted := s.answer notes answer
    Tended role log out.session endpoints (callOf out.signal) := by
  unfold Session.answer
  split
  next => exact h.close
  next => exact h

theorem Tended.fan (h : Tended role log s endpoints none) (notes : List Note)
    (entrance : Entrance) (origin : Origin) (ids : List EndpointId) :
    let out : Outcome _ _ _ Posted := s.fan notes entrance origin ids
    Tended role log out.session endpoints (callOf out.signal) := by
  unfold Session.fan
  split
  next id endpoint rest _ =>
    exact h.still rfl ⟨rfl, rfl, rfl⟩ (List.Subset.refl _) rfl nofun
  next =>
    cases entrance with
    | request => exact h.answer notes .done
    | task ticket => exact h

theorem Tended.fanOut (h : Tended role log s endpoints none) (notes : List Note)
    (entrance : Entrance) (origin : Origin) :
    let out : Outcome _ _ _ Posted := s.fanOut notes entrance origin
    Tended role log out.session endpoints (callOf out.signal) := by
  have hbegun : Tended role log
      { s with dispatcher := (s.dispatcher.startFanOut origin entrance.ticket?).2.1 }
      endpoints none :=
    h.still rfl (s.dispatcher.startFanOut_kept _ _)
      (s.dispatcher.startFanOut_inFlight_subset _ _) rfl nofun
  exact hbegun.fan _ _ _ _

theorem Tended.resume (h : Tended role log s endpoints none) :
    let out : Outcome _ _ _ Posted := s.resume
    Tended role log out.session endpoints (callOf out.signal) := by
  unfold Session.resume
  split
  next hframes =>
    exact Tended.fan (h.reframe (by rw [hframes]; rfl) none) _ _ _ _
  next hframes =>
    exact Tended.answer (h.reframe (by rw [hframes]; rfl) none) _ _
  next hframes => exact h.reframe (by rw [hframes]; rfl) none
  next => exact h

theorem Tended.letGo (h : Tended role log s endpoints none) :
    let out : Outcome _ _ _ Posted := s.letGo
    Tended role log out.session endpoints (callOf out.signal) := by
  unfold Session.letGo
  split
  next => exact h
  next =>
    split
    next => exact h.still rfl (Dispatcher.Kept.refl _) (List.Subset.refl _) rfl nofun
    next => exact h.close

theorem Tended.travel (h : Tended role log s endpoints none) (t : Travel) :
    let out : Outcome _ _ _ Posted := s.travel t
    Tended role log out.session endpoints (callOf out.signal) := by
  unfold Session.travel
  split
  next drive hdepart =>
    have hrunning : drive.running = none := by
      cases t <;> cases hdepart <;> rfl
    exact h.reframe (by simp [runners, hrunning]) none
  next => exact h

/-! ## Turns of the loop -/

/-- What the surroundings are called for as a task starts, if for anything. -/
def workOf : Errand Posted → Option (Call String Posted)
  | .fanOut _ _ => none
  | .posted work => some (.work work)

section Start

variable {e e' : Executor (Errand Posted)} {job : Job (Errand Posted)}
  {running running' : List TaskId} (hbefore : Rostered role running e) (hjob : job ∈ e.jobs)
  (hpass : Passes role role (· = job.id) e e')

include hbefore hjob hpass

/-- A registration that was posted still is once a task starts, unless that is the task. -/
theorem posts_or_called {r : Registration} (h : Posts e r) :
    Posts e' r ∨ workOf job.task = some (.work (.handler r)) := by
  obtain ⟨other, hother, htask, hlive, due, hwait, hdue⟩ := h
  by_cases heq : other = job
  · subst heq
    exact .inr (by rw [htask]; rfl)
  · have hid : other.id ≠ job.id := fun hid => heq (hbefore.eq_of_id_eq hother hjob hid)
    have hspared := hpass.spared other.id (hbefore.id_lt hother) hid
    refine .inl ⟨other, (hspared.jobs other rfl hlive).mpr hother, htask, hlive, due, hwait, ?_⟩
    exact Span.le_trans hdue (Executor.deadlineAfter_zero_mono hpass.later)

theorem Custody.start {d : Dispatcher String} {label : String} {c : Channel Registration}
    {held : Bool} (h : Custody log d e none label c held) :
    Custody log d e' (workOf job.task) label c held where
  severed := h.severed
  covered r hr := by
    rcases h.covered r hr with hkept | hposts | hcalled | hcalled
    · exact .inl hkept
    · exact .inr ((posts_or_called hbefore hjob hpass hposts).imp_right .inr)
    · cases hcalled
    · cases hcalled
  fresh hnew := by
    refine ⟨(h.fresh hnew).1, fun r hr => ?_⟩
    cases (h.fresh hnew).2 r hr
  dropped := h.dropped

/-- A watcher that starts had its signal raised. -/
theorem Vigil.start {label : String} {c : Channel Registration} {id : TaskId}
    (hlive : job.cancelled = false) (hready : job.ready e'.elapsed = true)
    (hafter : Rostered role (job.id :: running') e') (h : Vigil role e none label c id) :
    Vigil role e' (workOf job.task) label c id := by
  by_cases hid : id = job.id
  · subst hid
    have hwork : workOf job.task = some (.work (.watch label)) := by
      rw [hbefore.task job hjob, h.role]
      rfl
    have hgone : c.receiver ≠ .accepting := by
      have hwait := h.wait job hjob rfl hlive
      simpa [Job.ready, hwait] using hready
    exact { h with
      number := Nat.lt_of_lt_of_le h.number hpass.next
      stopped := fun hnone => absurd (hbefore.sound.live job hjob hlive) (h.stopped hnone)
      wait := fun other hother heq =>
        absurd heq (hafter.apart _ List.mem_cons_self other hother)
      waits := fun _ _ => .inr ⟨hwork, hgone⟩ }
  · exact h.pass hpass.toFollows hid (by rintro ⟨⟩)

end Start

/-- A task starts, which its drive then has under way. -/
theorem Tended.start (h : Tended role log s endpoints none) (drive : Drive)
    {rest : List (Frame Drive)} {job : Job (Errand Posted)} {l : Loop (Errand Posted)}
    (hjob : job ∈ s.timers.executor.jobs) (hlive : job.cancelled = false)
    (hready : job.ready l.executor.elapsed = true)
    (hrostered : Rostered role (job.id :: runners rest) l.executor)
    (hnext : l.executor.nextId = s.timers.executor.nextId)
    (hlater : s.timers.executor.elapsed ≤ l.executor.elapsed)
    (hothers : ∀ id, id ≠ job.id → Spared s.timers.executor l.executor id) :
    Tended role log
      { s with timers := l, frames := .travelling { drive with running := some job.id } :: rest }
      endpoints (workOf job.task) := by
  have hpass : Passes role role (· = job.id) s.timers.executor l.executor :=
    .of_spared hnext hlater hothers
  refine ⟨hrostered, fun x hx => hnext ▸ h.fanOuts x hx, h.registry,
    fun label endpoint hlookup => ?_, h.known, fun id hid => h.appointed id (hnext ▸ hid)⟩
  cases h.attended label endpoint hlookup with
  | recording origin handler => exact .recording origin handler
  | unwatched c held hnone => exact .unwatched c held hnone
  | watched c held id vigil custody =>
      exact .watched c held id (vigil.start h.rostered hjob hpass hlive hready hrostered)
        (custody.start h.rostered hjob hpass)

theorem Tended.proceed (h : Tended role log s endpoints none) :
    let out : Outcome _ _ _ Posted := s.proceed
    Tended role log out.session endpoints (callOf out.signal) := by
  unfold Session.proceed
  split
  next drive rest hframes =>
    have hrostered : Rostered role (drive.running.toList ++ runners rest) s.timers.executor := by
      have hbefore := h.rostered
      rwa [hframes] at hbefore
    cases Loop.turns hrostered with
    | runs job l found live ready out rostered next later others =>
        have hstarted := h.start drive found live ready rostered next later others
        have hturn : (Timeline.turn s.timers drive : Turn (Loop (Errand Posted)) Drive _) = _ := out
        rw [hturn]
        dsimp only
        cases htask : job.task with
        | fanOut origin ticket =>
            rw [htask] at hstarted
            exact hstarted.fanOut _ _ _
        | posted work =>
            rw [htask] at hstarted
            exact hstarted.still rfl (Dispatcher.Kept.refl _) (List.Subset.refl _) rfl
              fun _ _ => .inl rfl
    | arrives l out rostered next later spared calm =>
        have hturn : (Timeline.turn s.timers drive : Turn (Loop (Errand Posted)) Drive _) = _ := out
        rw [hturn]
        refine h.onward (fun _ => False) (.of_spared next later fun id _ => spared id)
          nofun rostered (fun x hx => next ▸ h.fanOuts x hx) h.registry (fun _ _ hr => hr) nofun
  next => exact h

/-! ## Registering and broadcasting -/

/-- A new registration is on its way to its listener, who is still held. -/
theorem Custody.enlist {d d' : Dispatcher String} {e : Executor (Errand Posted)}
    {label other : String} {c : Channel Registration} {held : Bool} {r : Registration}
    (h : Custody log d e none other c held)
    (hlisteners : ∀ x, Enlists d' other x ↔ Enlists d other x ∨ (x = r ∧ label = other))
    (hheld : label = other → held = true) :
    Custody log d' e (some (.install label r)) other c held where
  severed := h.severed
  covered x hx := by
    rcases (hlisteners x).mp hx with hold | ⟨rfl, rfl⟩
    · exact (h.covered x hold).imp_right fun hposts => hposts.imp_right nofun
    · exact .inr (.inr (.inl rfl))
  fresh hnew := by
    refine ⟨(h.fresh hnew).1, fun x hx => ?_⟩
    rcases (hlisteners x).mp hx with hold | ⟨rfl, rfl⟩
    · exact absurd ((h.fresh hnew).2 x hold) nofun
    · rfl
  dropped hdropped := by
    obtain ⟨hlet, hnobody⟩ := h.dropped hdropped
    refine ⟨hlet, fun x hx => ?_⟩
    rcases (hlisteners x).mp hx with hold | ⟨-, hlabel⟩
    · exact hnobody x hold
    · exact absurd ((hheld hlabel).symm.trans hlet) nofun

/-- A listener that is registered is to be handed its registration next. -/
theorem Tended.add (h : Tended role log s endpoints none) (origin : Origin) {label : String}
    (hknown : (endpoints.lookup label).isSome)
    (hheld : ∀ c id, endpoints.lookup label ≠ some (.channel c false (some id))) :
    let out : Outcome _ _ _ Posted := s.add origin label
    Tended role log out.session endpoints (callOf out.signal) := by
  have hlisteners (other : String) (r : Registration) :
      Enlists (s.dispatcher.add origin label).2.1 other r ↔
        Enlists s.dispatcher other r ∨
          (r = ⟨origin, s.dispatcher.nextEndpoint⟩ ∧ label = other) := by
    unfold Enlists
    rw [h.registry.listener?_add_eq_some, ← and_assoc]
    refine or_congr_right (and_congr_left fun _ => ?_)
    obtain ⟨found, number⟩ := r
    rw [Registration.mk.injEq]
  refine ⟨h.rostered, fun x hx => ?_, h.registry.add origin label,
    fun other endpoint hlookup => ?_, fun other r hr => ?_, h.appointed⟩
  · exact h.fanOuts x ((s.dispatcher.add_settled origin label).inFlight ▸ hx)
  · cases h.attended other endpoint hlookup with
    | recording found handler => exact .recording found handler
    | unwatched c held hnone => exact .unwatched c held hnone
    | watched c held id vigil custody =>
        refine .watched c held id ?_ ?_
        · have hpass := Passes.refl role (fun _ => False) s.timers.executor
          exact vigil.pass hpass.toFollows nofun nofun
        · refine custody.enlist (hlisteners other) fun hlabel => ?_
          subst hlabel
          cases held with
          | true => rfl
          | false => exact absurd hlookup (hheld c id)
  · rcases (hlisteners other r).mp hr with hold | ⟨-, rfl⟩
    · exact h.known other r hold
    · exact hknown

theorem Tended.scheduleFanOut (h : Tended role log s endpoints none) (origin : Origin) :
    let state := Dispatcher.scheduleFanOut (s.dispatcher, s.timers) origin
    ∃ role', Tended role' log { s with dispatcher := state.1, timers := state.2 } endpoints
      none := by
  unfold Dispatcher.scheduleFanOut
  dsimp only
  split
  next => exact ⟨role, h⟩
  next record _ =>
    have hother (label : String) :
        Errand.fanOut origin s.dispatcher.nextTicket ≠ .posted (Posted.watch label) := nofun
    have hpass := passes_track role (fun _ => False) s.timers.executor
      (.deadline (s.timers.executor.deadlineAfter record.delay)) hother
    refine ⟨_, h.onward _ hpass nofun (h.rostered.track _ _) (fun x hx => ?_)
      (h.registry.congr rfl rfl) (fun _ _ hr => hr) nofun⟩
    rcases List.mem_append.mp hx with hx | hx
    · obtain ⟨hlt, origin', ticket, hrole⟩ := h.fanOuts x hx
      exact ⟨Nat.lt_succ_of_lt hlt, origin', ticket, (hpass.roles _ hlt).trans hrole⟩
    · rw [List.mem_singleton.mp hx]
      exact ⟨Nat.lt_succ_self _, origin, _, Function.update_self _ _ _⟩

theorem Tended.foldl_scheduleFanOut (h : Tended role log s endpoints none)
    (origins : List Origin) :
    let state := origins.foldl Dispatcher.scheduleFanOut (s.dispatcher, s.timers)
    ∃ role', Tended role' log { s with dispatcher := state.1, timers := state.2 } endpoints
      none := by
  induction origins generalizing role s with
  | nil => exact ⟨role, h⟩
  | cons origin rest ih =>
      obtain ⟨role', hnext⟩ := h.scheduleFanOut origin
      exact ih hnext

theorem Tended.resolved (h : Tended role log s endpoints none) :
    Tended role log { s with dispatcher := s.dispatcher.resolveInterval.2.1 } endpoints none :=
  h.still rfl s.dispatcher.resolveInterval_kept
    (s.dispatcher.resolveInterval_settled.inFlight ▸ List.Subset.refl _) rfl nofun

/-- What a broadcast writes down does not matter. -/
theorem Tended.counting (h : Tended role log s endpoints none) (lastDispatch : Option Span)
    (stats : Stats) :
    Tended role log { s with dispatcher := { s.dispatcher with lastDispatch, stats } } endpoints
      none :=
  h.still rfl ⟨rfl, rfl, rfl⟩ (List.Subset.refl _) rfl nofun

theorem Tended.broadcast (h : Tended role log s endpoints none)
    (visit : List Origin → List Origin) :
    let out : Outcome _ _ _ Posted := s.broadcast visit
    ∃ role', Tended role' log out.session endpoints (callOf out.signal) := by
  unfold Session.broadcast Dispatcher.broadcast
  dsimp only
  split
  next => exact ⟨role, h.resolved.answer _ _⟩
  next now hclock =>
    split
    next => exact ⟨role, (h.resolved.counting _ _).answer _ _⟩
    next =>
      obtain ⟨role', hscattered⟩ := (h.resolved.counting (some now) _).foldl_scheduleFanOut
        (visit (s.dispatcher.resolveInterval.2.1.records.map Prod.fst))
      exact ⟨role', hscattered.answer _ _⟩

/-! ## Any move -/

/-- Every move of a session takes care of its watched listeners, if only such are registered
that somebody still holds. -/
theorem Tended.perform (h : Tended role log s endpoints none)
    (visit : List Origin → List Origin) (m : Move String)
    (hadd : ∀ origin label, m = .add origin label → (endpoints.lookup label).isSome ∧
      ∀ c id, endpoints.lookup label ≠ some (.channel c false (some id))) :
    let out : Outcome _ _ _ Posted := s.perform visit m
    ∃ role', Tended role' log out.session endpoints (callOf out.signal) := by
  unfold Session.perform
  split
  next => exact ⟨role, h⟩
  next =>
    cases m with
    | add origin label =>
        obtain ⟨hknown, hheld⟩ := hadd origin label rfl
        exact ⟨role, h.add origin hknown hheld⟩
    | broadcast => exact h.broadcast visit
    | dispatch origin => exact ⟨role, h.fanOut _ _ _⟩
    | remove r => exact ⟨role, Tended.answer (h.remove r nofun) _ _⟩
    | resolve => exact ⟨role, h.resolved.answer _ _⟩
    | disconnect r => exact ⟨role, h.remove r nofun⟩
    | letGo => exact ⟨role, h.letGo⟩
    | travel t => exact ⟨role, h.travel t⟩
    | resume => exact ⟨role, h.resume⟩
    | proceed => exact ⟨role, h.proceed⟩

end Cadence.Rehearsal.Broadcasting
