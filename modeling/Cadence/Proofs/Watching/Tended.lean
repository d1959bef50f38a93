import Cadence.Proofs.Broadcast.Registry
import Cadence.Proofs.Executor.Roster
import Cadence.Rehearsal.Broadcasting

/-! # Watched listeners and their watchers

A watched listener has one watcher, a task that waits for the receiver to go. What is kept
throughout: the watcher waits as long as there is something to notice, and whoever is to take
the registration of the listener back still will.
-/

namespace Cadence.Executor

theorem roundUp_mono {m n : Nat} (h : m ≤ n) : roundUp m ≤ roundUp n :=
  Nat.mul_le_mul_right _ (Nat.div_le_div_right (Nat.add_le_add_right h _))

/-- What is put off later without delay is due later. -/
theorem deadlineAfter_zero_mono {τ : Type} {e e' : Executor τ} (h : e.elapsed ≤ e'.elapsed) :
    e.deadlineAfter .zero ≤ e'.deadlineAfter .zero := by
  have hmono {m n : Nat} (hle : m ≤ n) : Span.ofNanos (roundUp m) ≤ .ofNanos (roundUp n) := by
    have hround := roundUp_mono hle
    simp only [Span.le_iff, Span.nanos_ofNanos]
    omega
  rw [Span.le_iff] at h
  unfold deadlineAfter
  rw [Span.nanos_zero]
  dsimp only
  split <;> split <;> exact hmono (by omega)

end Cadence.Executor

namespace Cadence.Rehearsal.Broadcasting

open Cadence.Broadcast
open Executor (Drive Loop Rostered Spared)

/-- A session of a dispatcher on a loop that may choose among ready tasks. -/
abbrev LoopSession := Session (Loop (Errand Posted)) Drive String

/-- The tasks that drives have under way. -/
def runners (frames : List (Frame Drive)) : List TaskId :=
  frames.flatMap fun
    | .travelling drive => drive.running.toList
    | _ => []

variable {role role' : TaskId → Errand Posted} {touched : TaskId → Prop}
  {e e' e'' : Executor (Errand Posted)} {call call' : Option (Call String Posted)}
  {label : String} {c : Channel Registration} {held : Bool} {id : TaskId}

/-! ## What happens to an executor -/

/-- An executor goes on: what numbers were given out for is not changed, and those that are not
touched keep what waits under them. -/
structure Follows (role role' : TaskId → Errand Posted) (touched : TaskId → Prop)
    (e e' : Executor (Errand Posted)) : Prop where
  next : e.nextId ≤ e'.nextId
  later : e.elapsed ≤ e'.elapsed
  roles : ∀ id < e.nextId, role' id = role id
  spared : ∀ id < e.nextId, ¬ touched id → Spared e e' id

/-- An executor goes on, and no number is given out for watching. -/
structure Passes (role role' : TaskId → Errand Posted) (touched : TaskId → Prop)
    (e e' : Executor (Errand Posted)) : Prop extends Follows role role' touched e e' where
  unwatched : ∀ id < e'.nextId, e.nextId ≤ id → ∀ label, role' id ≠ .posted (.watch label)

theorem Passes.of_spared (hnext : e'.nextId = e.nextId) (hlater : e.elapsed ≤ e'.elapsed)
    (hspared : ∀ id, ¬ touched id → Spared e e' id) : Passes role role touched e e' where
  next := Nat.le_of_eq hnext.symm
  later := hlater
  roles _ _ := rfl
  spared id _ hid := hspared id hid
  unwatched _ hlt hle := absurd hlt (Nat.not_lt.mpr (hnext ▸ hle))

theorem Passes.refl (role : TaskId → Errand Posted) (touched : TaskId → Prop)
    (e : Executor (Errand Posted)) : Passes role role touched e e :=
  .of_spared rfl (Span.le_refl _) fun id _ => Spared.refl e id

theorem Passes.mono {touched' : TaskId → Prop} (h : Passes role role' touched e e')
    (hmore : ∀ id, touched id → touched' id) : Passes role role' touched' e e' where
  next := h.next
  later := h.later
  roles := h.roles
  spared id hid hfree := h.spared id hid fun hin => hfree (hmore id hin)
  unwatched := h.unwatched

theorem Passes.trans {role'' : TaskId → Errand Posted} (h : Passes role role' touched e e')
    (h' : Passes role' role'' touched e' e'') : Passes role role'' touched e e'' where
  next := Nat.le_trans h.next h'.next
  later := Span.le_trans h.later h'.later
  roles id hid := (h'.roles id (Nat.lt_of_lt_of_le hid h.next)).trans (h.roles id hid)
  spared id hid hfree :=
    (h.spared id hid hfree).trans (h'.spared id (Nat.lt_of_lt_of_le hid h.next) hfree)
  unwatched id hlt hle label := by
    by_cases hid : id < e'.nextId
    · rw [h'.roles id hid]
      exact h.unwatched id hid hle label
    · exact h'.unwatched id hlt (Nat.le_of_not_lt hid) label

theorem follows_track (role : TaskId → Errand Posted) (touched : TaskId → Prop)
    (e : Executor (Errand Posted)) (wait : Wait) (task : Errand Posted) :
    Follows role (Function.update role e.nextId task) touched e (e.track wait task).2 where
  next := Nat.le_succ _
  later := Span.le_refl _
  roles _ hid := Function.update_of_ne (Nat.ne_of_lt hid) _ _
  spared _ hid _ := Executor.spared_track wait task hid

theorem passes_track (role : TaskId → Errand Posted) (touched : TaskId → Prop)
    (e : Executor (Errand Posted)) (wait : Wait) {task : Errand Posted}
    (hother : ∀ label, task ≠ .posted (.watch label)) :
    Passes role (Function.update role e.nextId task) touched e (e.track wait task).2 where
  toFollows := follows_track role touched e wait task
  unwatched id hlt hle label := by
    rw [Nat.le_antisymm (Nat.le_of_lt_succ hlt) hle, Function.update_self]
    exact hother label

theorem passes_cancel (h : touched id) : Passes role role touched e (e.cancel id) := by
  refine .of_spared (e.cancel_nextId id) (by rw [e.cancel_elapsed]; exact Span.le_refl _) ?_
  intro other hother
  exact Executor.spared_cancel fun heq => hother (heq ▸ h)

theorem passes_raise (h : touched id) : Passes role role touched e (e.raise id) := by
  refine .of_spared rfl (Span.le_refl _) fun other hother => ?_
  exact Executor.spared_raise fun heq => hother (heq ▸ h)

/-! ## The watcher of a listener -/

/-- A watcher does what it is there for. It is a task of its own number; it is stopped with
the listener and when the listener is disconnected, except that a listener that finds its
receiver gone leaves the watcher to notice too; and while there is something to notice it
waits, or has just been woken. -/
structure Vigil (role : TaskId → Errand Posted) (e : Executor (Errand Posted))
    (call : Option (Call String Posted)) (label : String) (c : Channel Registration)
    (id : TaskId) : Prop where
  number : id < e.nextId
  role : role id = .posted (.watch label)
  watcher : c.watcher = none ∨ c.watcher = some id
  stopped : c.watcher = none → id ∉ e.tracked
  kept : c.alive = true → c.disconnected = false → c.watcher = some id
  dropped : c.alive = false → c.watcher = none
  severed : c.disconnected = true → c.watcher = none ∨ c.receiver ≠ .accepting
  wait : ∀ job ∈ e.jobs, job.id = id → job.cancelled = false →
    job.wait = .signal (c.receiver ≠ .accepting)
  waits : c.alive = true → c.disconnected = false →
    (∃ job ∈ e.jobs, job.id = id ∧ job.cancelled = false) ∨
      (call = some (.work (.watch label)) ∧ c.receiver ≠ .accepting)

theorem Vigil.pass (h : Vigil role e call label c id) (hpass : Follows role role' touched e e')
    (hid : ¬ touched id)
    (hcall : call = some (.work (.watch label)) → c.alive = true → c.disconnected = false →
      call' = call) :
    Vigil role' e' call' label c id where
  number := Nat.lt_of_lt_of_le h.number hpass.next
  role := (hpass.roles id h.number).trans h.role
  watcher := h.watcher
  stopped hnone htracked := h.stopped hnone ((hpass.spared id h.number hid).tracked htracked)
  kept := h.kept
  dropped := h.dropped
  severed := h.severed
  wait job hjob heq hlive :=
    h.wait job (((hpass.spared id h.number hid).jobs job heq hlive).mp hjob) heq hlive
  waits halive hconnected := by
    refine (h.waits halive hconnected).imp ?_ ?_
    · rintro ⟨job, hjob, heq, hlive⟩
      exact ⟨job, ((hpass.spared id h.number hid).jobs job heq hlive).mpr hjob, heq, hlive⟩
    · rintro ⟨hwork, hgone⟩
      exact ⟨(hcall hwork halive hconnected).trans hwork, hgone⟩

/-- Only some parts of a channel matter to its watcher. -/
theorem Vigil.congr (h : Vigil role e call label c id) {c' : Channel Registration}
    (hwatcher : c'.watcher = c.watcher) (halive : c'.alive = c.alive)
    (hdisconnected : c'.disconnected = c.disconnected) (hreceiver : c'.receiver = c.receiver) :
    Vigil role e call label c' id := by
  refine ⟨h.number, h.role, ?_, ?_, ?_, ?_, ?_, ?_, ?_⟩
  · exact hwatcher ▸ h.watcher
  · exact hwatcher ▸ h.stopped
  · exact halive ▸ hdisconnected ▸ hwatcher ▸ h.kept
  · exact halive ▸ hwatcher ▸ h.dropped
  · exact hdisconnected ▸ hwatcher ▸ hreceiver ▸ h.severed
  · exact hreceiver ▸ h.wait
  · exact halive ▸ hdisconnected ▸ hreceiver ▸ h.waits

/-! ## The registration of a listener -/

/-- A task is to take a registration back as soon as anything put off now is due. -/
def Posts (e : Executor (Errand Posted)) (r : Registration) : Prop :=
  ∃ job ∈ e.jobs, job.task = .posted (.handler r) ∧ job.cancelled = false ∧
    ∃ due, job.wait = .deadline due ∧ due ≤ e.deadlineAfter .zero

theorem Posts.pass {r : Registration} {running : List TaskId} (h : Posts e r)
    (hrostered : Rostered role running e) (hpass : Follows role role' touched e e')
    (hfree : ∀ id, role id = .posted (.handler r) → ¬ touched id) : Posts e' r := by
  obtain ⟨job, hjob, htask, hlive, due, hwait, hdue⟩ := h
  have hrole : role job.id = .posted (.handler r) := (hrostered.task job hjob).symm.trans htask
  have hspared := hpass.spared job.id (hrostered.id_lt hjob) (hfree job.id hrole)
  exact ⟨job, (hspared.jobs job rfl hlive).mpr hjob, htask, hlive, due, hwait,
    Span.le_trans hdue (Executor.deadlineAfter_zero_mono hpass.later)⟩

/-- The dispatcher holds a registration of the listener. -/
def Enlists (d : Dispatcher String) (label : String) (r : Registration) : Prop :=
  d.listener? r.origin r.id = some label

/-- Whoever is to take the registration of a listener back still will: the listener keeps it, it
is posted, or it is just being handed over. `log` has the listeners that were handed one. -/
structure Custody (log : List String) (d : Dispatcher String) (e : Executor (Errand Posted))
    (call : Option (Call String Posted)) (label : String) (c : Channel Registration)
    (held : Bool) : Prop where
  severed : c.disconnected = true → c.handler = none
  covered : ∀ r, Enlists d label r →
    c.handler = some r ∨ Posts e r ∨ call = some (.install label r) ∨
      call = some (.work (.handler r))
  fresh : label ∉ log → c.handler = none ∧
    ∀ r, Enlists d label r → call = some (.install label r)
  dropped : c.alive = false → held = false ∧ ∀ r, ¬ Enlists d label r

theorem Custody.pass {log : List String} {d d' : Dispatcher String} {running : List TaskId}
    (h : Custody log d e call label c held) (hrostered : Rostered role running e)
    (hpass : Follows role role' touched e e')
    (hfree : ∀ id r, role id = .posted (.handler r) → ¬ touched id)
    (hlisteners : ∀ r, Enlists d' label r → Enlists d label r)
    (hcall : ∀ r, Enlists d' label r →
      call = some (.install label r) ∨ call = some (.work (.handler r)) → call' = call) :
    Custody log d' e' call' label c held where
  severed := h.severed
  covered r hr := by
    rcases h.covered r (hlisteners r hr) with hkept | hposts | hinstall
    · exact .inl hkept
    · exact .inr (.inl (hposts.pass hrostered hpass fun id => hfree id r))
    · exact .inr (.inr ((hcall r hr hinstall).symm ▸ hinstall))
  fresh hnew := by
    obtain ⟨hhandler, hinstall⟩ := h.fresh hnew
    refine ⟨hhandler, fun r hr => ?_⟩
    have hcalled := hinstall r (hlisteners r hr)
    exact (hcall r hr (.inl hcalled)).trans hcalled
  dropped hdropped :=
    ⟨(h.dropped hdropped).1, fun r hr => (h.dropped hdropped).2 r (hlisteners r hr)⟩

theorem Custody.mono {log log' : List String} {d : Dispatcher String}
    (h : Custody log d e call label c held) (hlog : log ⊆ log') :
    Custody log' d e call label c held :=
  ⟨h.severed, h.covered, fun hnew => h.fresh fun hin => hnew (hlog hin), h.dropped⟩

/-! ## What an endpoint needs -/

/-- An endpoint has its watcher, if it is watched, and a registration in custody. -/
inductive Attended (role : TaskId → Errand Posted) (log : List String) (d : Dispatcher String)
    (e : Executor (Errand Posted)) (call : Option (Call String Posted)) (label : String) :
    Endpoint → Prop
  | recording (origin : Origin) (handler : Option Registration) :
      Attended role log d e call label (.recording origin handler)
  | unwatched (c : Channel Registration) (held : Bool) (h : c.watcher = none) :
      Attended role log d e call label (.channel c held none)
  | watched (c : Channel Registration) (held : Bool) (id : TaskId)
      (vigil : Vigil role e call label c id) (custody : Custody log d e call label c held) :
      Attended role log d e call label (.channel c held (some id))

/-- The calls that an endpoint needs to be answered. -/
inductive Needs (d : Dispatcher String) (label : String) : Endpoint → Call String Posted → Prop
  | install (c : Channel Registration) (held : Bool) (id : TaskId) (r : Registration)
      (h : Enlists d label r) : Needs d label (.channel c held (some id)) (.install label r)
  | handler (c : Channel Registration) (held : Bool) (id : TaskId) (r : Registration)
      (h : Enlists d label r) : Needs d label (.channel c held (some id)) (.work (.handler r))
  | watch (c : Channel Registration) (held : Bool) (id : TaskId) (alive : c.alive = true)
      (connected : c.disconnected = false) :
      Needs d label (.channel c held (some id)) (.work (.watch label))

variable {log log' : List String} {d d' : Dispatcher String} {running : List TaskId}
  {endpoint : Endpoint} {k : Call String Posted}

/-- Nothing happens to an endpoint as long as its watcher and its registration are left alone. -/
theorem Attended.pass (h : Attended role log d e call label endpoint)
    (hrostered : Rostered role running e) (hpass : Follows role role' touched e e')
    (hwatch : ∀ id, role id = .posted (.watch label) → ¬ touched id)
    (hfree : ∀ id r, role id = .posted (.handler r) → ¬ touched id)
    (hlisteners : ∀ r, Enlists d' label r → Enlists d label r)
    (hcall : ∀ k, call = some k → Needs d' label endpoint k → call' = call) :
    Attended role' log d' e' call' label endpoint := by
  cases h with
  | recording origin handler => exact .recording origin handler
  | unwatched c held hnone => exact .unwatched c held hnone
  | watched c held id vigil custody =>
      refine .watched c held id ?_ ?_
      · refine vigil.pass hpass (hwatch id vigil.role) fun hwork halive hconnected => ?_
        exact hcall _ hwork (.watch c held id halive hconnected)
      · refine custody.pass hrostered hpass hfree hlisteners fun r hr hcalled => ?_
        rcases hcalled with hinstall | hhandler
        · exact hcall _ hinstall (.install c held id r hr)
        · exact hcall _ hhandler (.handler c held id r hr)

theorem Attended.mono (h : Attended role log d e call label endpoint) (hlog : log ⊆ log') :
    Attended role log' d e call label endpoint := by
  cases h with
  | recording origin handler => exact .recording origin handler
  | unwatched c held hnone => exact .unwatched c held hnone
  | watched c held id vigil custody => exact .watched c held id vigil (custody.mono hlog)

/-- Calls that nobody needs to be answered. -/
def Idle (endpoints : List (String × Endpoint)) (d : Dispatcher String)
    (k : Call String Posted) : Prop :=
  ∀ label endpoint, endpoints.lookup label = some endpoint → ¬ Needs d label endpoint k

variable {endpoints : List (String × Endpoint)}

theorem idle_notify (label : String) : Idle endpoints d (.notify label) := fun _ _ _ => nofun

theorem idle_install {r : Registration}
    (h : ∀ c held id, endpoints.lookup label ≠ some (.channel c held (some id))) :
    Idle endpoints d (.install label r) := by
  intro _ _ hlookup hneeds
  cases hneeds with
  | install c held id => exact h c held id hlookup

theorem idle_handler {r : Registration} (h : ∀ label, ¬ Enlists d label r) :
    Idle endpoints d (.work (.handler r)) := by
  intro label _ _ hneeds
  cases hneeds with
  | handler _ _ _ _ hr => exact h label hr

theorem idle_watch
    (h : ∀ c held id, endpoints.lookup label = some (.channel c held (some id)) →
      c.alive = false ∨ c.disconnected = true) : Idle endpoints d (.work (.watch label)) := by
  intro _ _ hlookup hneeds
  cases hneeds with
  | watch c held id halive hconnected =>
      rcases h c held id hlookup with hdropped | hdisconnected
      · exact absurd (halive.symm.trans hdropped) nofun
      · exact absurd (hdisconnected.symm.trans hconnected) nofun

/-! ## A stage that is tended -/

/-- All endpoints are attended. `role` says what numbers were given out for, and `call` is what
the surroundings have been called for. -/
structure Tended (role : TaskId → Errand Posted) (log : List String) (s : LoopSession)
    (endpoints : List (String × Endpoint)) (call : Option (Call String Posted)) : Prop where
  rostered : Rostered role (runners s.frames) s.timers.executor
  fanOuts : ∀ x ∈ s.dispatcher.inFlight, x.2 < s.timers.executor.nextId ∧
    ∃ origin ticket, role x.2 = .fanOut origin ticket
  registry : s.dispatcher.Sound
  attended : ∀ label endpoint, endpoints.lookup label = some endpoint →
    Attended role log s.dispatcher s.timers.executor call label endpoint
  known : ∀ label r, Enlists s.dispatcher label r → (endpoints.lookup label).isSome
  appointed : ∀ id < s.timers.executor.nextId, ∀ label, role id = .posted (.watch label) →
    ∃ c held, endpoints.lookup label = some (.channel c held (some id))

variable {s s' : LoopSession}

theorem Tended.vigil (h : Tended role log s endpoints call)
    (hlookup : endpoints.lookup label = some (.channel c held (some id))) :
    Vigil role s.timers.executor call label c id := by
  cases h.attended label _ hlookup with
  | watched _ _ _ vigil _ => exact vigil

theorem Tended.custody (h : Tended role log s endpoints call)
    (hlookup : endpoints.lookup label = some (.channel c held (some id))) :
    Custody log s.dispatcher s.timers.executor call label c held := by
  cases h.attended label _ hlookup with
  | watched _ _ _ _ custody => exact custody

/-- A session goes on while nothing happens to watchers and handlers: of the numbers that were
given out only those of fan-outs may be touched, and nobody is registered. -/
theorem Tended.onward (h : Tended role log s endpoints call) (touched : TaskId → Prop)
    (hpass : Passes role role' touched s.timers.executor s'.timers.executor)
    (htouched : ∀ id, touched id → ∃ origin ticket, role id = .fanOut origin ticket)
    (hrostered : Rostered role' (runners s'.frames) s'.timers.executor)
    (hfanOuts : ∀ x ∈ s'.dispatcher.inFlight, x.2 < s'.timers.executor.nextId ∧
      ∃ origin ticket, role' x.2 = .fanOut origin ticket)
    (hregistry : s'.dispatcher.Sound)
    (hlisteners : ∀ label r, Enlists s'.dispatcher label r → Enlists s.dispatcher label r)
    (hcall : ∀ k, call = some k → call' = call ∨ Idle endpoints s'.dispatcher k) :
    Tended role' log s' endpoints call' := by
  have hposted {id : TaskId} {work : Posted} (hrole : role id = .posted work) : ¬ touched id := by
    intro hid
    obtain ⟨origin, ticket, hfanOut⟩ := htouched id hid
    exact absurd (hrole.symm.trans hfanOut) nofun
  refine ⟨hrostered, hfanOuts, hregistry, fun label endpoint hlookup => ?_,
    fun label r hr => h.known label r (hlisteners label r hr), fun id hid label hrole => ?_⟩
  · refine (h.attended label endpoint hlookup).pass h.rostered hpass.toFollows
      (fun id => hposted) (fun id r => hposted) (hlisteners label) fun k hk hneeds => ?_
    exact (hcall k hk).resolve_right fun hidle => hidle label endpoint hlookup hneeds
  · by_cases hold : id < s.timers.executor.nextId
    · exact h.appointed id hold label ((hpass.roles id hold).symm.trans hrole)
    · exact absurd hrole (hpass.unwatched id hid (Nat.le_of_not_lt hold) label)

end Cadence.Rehearsal.Broadcasting
