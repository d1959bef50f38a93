import Cadence.Proofs.Watching.Stages

/-! # The lives of watched listeners

A watcher neither leaks nor misses. As long as there is something to notice exactly one watcher
is in the books; once the receiver is gone the listener is disconnected and its registration
taken back; and once the listener is gone or disconnected nothing of its watcher is left.
-/

namespace Cadence.Channel

/-- Where nobody holds the sending end, a receiver finds the next notice or the end. -/
theorem poll_of_gone {η : Type} (c : Channel η) :
    c.poll false = (c.buffer.head?.elim .ended .notice, { c with buffer := c.buffer.tail }) := by
  obtain ⟨_, _, _, _, _, _, buffer, _⟩ := c
  cases buffer <;> rfl

end Cadence.Channel

namespace Cadence.Rehearsal.Broadcasting

open Cadence.Broadcast
open Executor (Drive Loop Rostered Spared)

namespace Stage

variable {role : TaskId → Errand Posted} {log : List String} {w : LoopStage} {label : String}
  {c : Channel Registration} {held : Bool} {id : TaskId}

/-! ## Runs -/

/-- A stage at the beginning. -/
def fresh (intervals : IntervalSource) (delays : DelaySource) : LoopStage :=
  { session := { timers := {}, dispatcher := { intervals, delays } } }

/-- Stages that come about, with the watched listeners that were registered in their order. What
is next may happen, a step may be made whenever nothing is called for, time may pass, the loop
may come to prefer another task, and scripts and records may be rewritten. -/
inductive Reaches : LoopStage → List String → Prop
  | fresh (intervals : IntervalSource) (delays : DelaySource) :
      Reaches (Stage.fresh intervals delays) []
  | ticks {w w' : LoopStage} {log : List String} (before : Reaches w log)
      (tick : w.tick = some w') : Reaches w' (log ++ w.enrolled)
  | acts {w : LoopStage} {log : List String} (before : Reaches w log)
      (quiet : w.signal = .quiet) (step : Step) : Reaches (w.perform step) log
  | waits {w : LoopStage} {log : List String} (before : Reaches w log) (elapsed : Span)
      (later : w.session.timers.executor.elapsed ≤ elapsed) (choice : Nat) :
      Reaches { w with session := { w.session with
        timers := { executor := { w.session.timers.executor with elapsed }, choice } } } log
  | notes {w w' : LoopStage} {log : List String} (before : Reaches w log)
      (session : w'.session = w.session) (endpoints : w'.endpoints = w.endpoints)
      (signal : w'.signal = w.signal) : Reaches w' log

theorem tends_fresh (intervals : IntervalSource) (delays : DelaySource) :
    (fresh intervals delays).Tends [] := by
  refine ⟨fun _ => .fanOut default 0, Executor.rostered_empty _, nofun,
    Dispatcher.sound_of_no_records rfl, fun label endpoint hlookup => ?_, nofun, nofun⟩
  have hnobody : ([] : List (String × Endpoint)).lookup label = some endpoint := hlookup
  cases hnobody

theorem tends_waits (h : w.Tends log) {elapsed : Span}
    (hlater : w.session.timers.executor.elapsed ≤ elapsed) (choice : Nat) :
    Tends { w with session := { w.session with
      timers := { executor := { w.session.timers.executor with elapsed }, choice } } } log := by
  obtain ⟨role, htended⟩ := h
  refine ⟨role, htended.onward (fun _ => False) (.of_spared rfl hlater fun id _ => ?_) nofun
    (htended.rostered.at elapsed) htended.fanOuts htended.registry (fun _ _ hr => hr)
    fun _ _ => .inl rfl⟩
  exact ⟨fun _ _ _ => Iff.rfl, fun htracked => htracked⟩

/-- Where no watched listener was registered twice, everything has been taken care of. -/
theorem Reaches.tends (h : Reaches w log) (honce : log.Nodup) : w.Tends log := by
  induction h with
  | fresh intervals delays => exact tends_fresh intervals delays
  | ticks before tick ih => exact tends_tick (ih honce.of_append_left) tick honce
  | acts before quiet step ih =>
      obtain ⟨role, htended⟩ := ih honce
      rw [quiet] at htended
      exact tends_perform htended step
  | waits before elapsed later choice ih => exact tends_waits (ih honce) later choice
  | notes before session endpoints signal ih =>
      obtain ⟨role, htended⟩ := ih honce
      exact ⟨role, session ▸ endpoints ▸ signal ▸ htended⟩

/-- The watched listeners that are registered in so many ticks. -/
def enrolledIn : Nat → LoopStage → List String
  | 0, _ => []
  | fuel + 1, w =>
      match w.tick with
      | some w' => w.enrolled ++ enrolledIn fuel w'
      | none => []

theorem Reaches.run (h : Reaches w log) (fuel : Nat) :
    Reaches (w.run fuel) (log ++ w.enrolledIn fuel) := by
  induction fuel generalizing w log with
  | zero => exact (List.append_nil log).symm ▸ h
  | succ fuel ih =>
      unfold Stage.run enrolledIn
      cases htick : w.tick with
      | none => exact (List.append_nil log).symm ▸ h
      | some w' => exact List.append_assoc log _ _ ▸ ih (h.ticks htick)

/-- A rehearsal of any steps is such a run. -/
theorem Reaches.play (h : Reaches w log) (step : Step) :
    ∃ more, Reaches (w.play step) (log ++ more) := by
  have hbegun : Reaches
      { w with
        notes := [], deliveries := [], nested := [], reply := .nothing
        cues := [{ rest := [step] }] } log := h.notes rfl rfl rfl
  exact ⟨_, hbegun.run budget⟩

/-! ## What is left to do -/

/-- Everything due has run: nothing is under way, what was cancelled has been thrown away, and no
task is due, not even one put off without delay. -/
structure Settled (w : LoopStage) : Prop where
  still : w.tick = none
  frames : w.session.frames = []
  kept : ∀ job ∈ w.session.timers.executor.jobs, job.cancelled = false
  calm : ∀ job ∈ w.session.timers.executor.jobs,
    job.ready (w.session.timers.executor.deadlineAfter .zero) = false

theorem quiet_of_still (h : w.tick = none) : w.signal = .quiet ∧ w.cues = [] := by
  unfold tick at h
  split at h
  next => cases h
  next => cases h
  next hsignal =>
    refine ⟨hsignal, ?_⟩
    split at h
    next => cases h
    next =>
      split at h
      next hcues => exact hcues
      next => split at h <;> cases h

/-- An advance that arrives at a whole millisecond leaves nothing due behind. -/
theorem calm_of_arrival (h : Tended role log w.session w.endpoints none) {drive : Drive}
    {rest : List (Frame Drive)} (hframes : w.session.frames = .travelling drive :: rest)
    {arrival : Arrival} {l : Loop (Errand Posted)}
    (hturn : w.session.timers.turn drive = .over arrival l)
    (hwhole : l.executor.elapsed.nanos % 1000000 = 0)
    (hnear : l.executor.elapsed.nanos < 9223372036854775808000000000) :
    ∀ job ∈ l.executor.jobs,
      job.cancelled = false ∧ job.ready (l.executor.deadlineAfter .zero) = false := by
  have hrostered :
      Rostered role (drive.running.toList ++ runners rest) w.session.timers.executor := by
    have hbefore := h.rostered
    rwa [hframes] at hbefore
  have hnow : l.executor.deadlineAfter .zero = l.executor.elapsed := by
    have hround : Executor.roundUp l.executor.elapsed.nanos = l.executor.elapsed.nanos := by
      unfold Executor.roundUp
      omega
    unfold Executor.deadlineAfter
    rw [Span.nanos_zero, Nat.add_zero]
    dsimp only
    rw [if_pos hnear, hround]
    exact Span.ext (Nat.min_eq_left l.executor.elapsed.nanos_le)
  cases Loop.turns hrostered with
  | runs job l' found live ready out => exact absurd (out.symm.trans hturn) nofun
  | arrives l' out rostered next later spared calm =>
      cases out.symm.trans hturn
      exact hnow.symm ▸ calm

/-- Whether a task is a watcher of a listener. -/
def watches (label : String) : Errand Posted → Bool
  | .posted (.watch other) => other = label
  | _ => false

/-- The watchers of a listener that are in the books. -/
def watchers (w : LoopStage) (label : String) : List TaskId :=
  let e := w.session.timers.executor
  e.tracked.filter fun id => e.jobs.any fun job => job.id = id && watches label job.task

theorem watches_iff {task : Errand Posted} :
    watches label task = true ↔ task = .posted (.watch label) := by
  unfold watches
  split
  next other => simp
  next hother => exact ⟨nofun, fun h => absurd h (hother label)⟩

/-- A watcher that still waits was not woken, or it would be due. -/
theorem accepting_of_settled {call : Option (Call String Posted)}
    (hvigil : Vigil role w.session.timers.executor call label c id) (hsettled : w.Settled)
    {job : Job (Errand Posted)} (hjob : job ∈ w.session.timers.executor.jobs)
    (hid : job.id = id) : c.receiver = .accepting := by
  have hready := Executor.ready_of_signal (hvigil.wait job hjob hid (hsettled.kept job hjob))
    (w.session.timers.executor.deadlineAfter .zero)
  rw [hsettled.calm job hjob] at hready
  simpa using hready

section Tended

variable (h : Tended role log w.session w.endpoints (callOf w.signal))
  (hlookup : w.endpoints.lookup label = some (.channel c held (some id)))

include h hlookup

/-- Nobody else watches for a listener. -/
theorem eq_of_mem_watchers {other : TaskId} (hother : other ∈ w.watchers label) :
    other = id ∧ id ∈ w.session.timers.executor.tracked := by
  obtain ⟨htracked, hany⟩ := List.mem_filter.mp hother
  obtain ⟨job, hjob, hfound⟩ := List.any_eq_true.mp hany
  rw [Bool.and_eq_true, decide_eq_true_eq, watches_iff] at hfound
  obtain ⟨rfl, htask⟩ := hfound
  obtain ⟨c', held', hfound⟩ := h.appointed job.id (h.rostered.id_lt hjob) label
    ((h.rostered.task job hjob).symm.trans htask)
  cases hlookup.symm.trans hfound
  exact ⟨rfl, htracked⟩

theorem watchers_of_accepting (halive : c.alive = true) (hconnected : c.disconnected = false)
    (haccepting : c.receiver = .accepting) : w.watchers label = [id] := by
  have hvigil := h.vigil hlookup
  obtain ⟨job, hjob, hid, hlive⟩ :=
    (hvigil.waits halive hconnected).resolve_right fun hcalled => hcalled.2 haccepting
  have htask : job.task = .posted (.watch label) :=
    (h.rostered.task job hjob).trans (hid ▸ hvigil.role)
  have hmem : id ∈ w.watchers label := by
    refine List.mem_filter.mpr ⟨hid ▸ h.rostered.sound.live job hjob hlive, ?_⟩
    refine List.any_eq_true.mpr ⟨job, hjob, ?_⟩
    rw [Bool.and_eq_true, decide_eq_true_eq, watches_iff]
    exact ⟨hid, htask⟩
  have hnodup : (w.watchers label).Nodup := h.rostered.sound.tracked_nodup.filter _
  refine List.perm_singleton.mp ((List.perm_ext_iff_of_nodup hnodup (List.nodup_singleton id)).mpr
    fun other => ?_)
  rw [List.mem_singleton]
  exact ⟨fun hother => (eq_of_mem_watchers h hlookup hother).1, fun hother => hother ▸ hmem⟩

/-- Where everything due has run, a watcher has noticed what there was to notice. -/
theorem disconnected_of_settled (hsettled : w.Settled) (hended : c.receiver ≠ .accepting)
    (halive : c.alive = true) : c.disconnected = true := by
  have hvigil := h.vigil hlookup
  by_contra hconnected
  have hwaits := hvigil.waits halive (Bool.eq_false_iff.mpr hconnected)
  rcases hwaits with ⟨job, hjob, hid, -⟩ | hcalled
  · exact hended (accepting_of_settled hvigil hsettled hjob hid)
  · rw [(quiet_of_still hsettled.still).1] at hcalled
    exact absurd hcalled.1 nofun

theorem not_registered_of_settled (hsettled : w.Settled) (hended : c.receiver ≠ .accepting) :
    w.registered label = false := by
  have hcustody := h.custody hlookup
  rw [Bool.eq_false_iff, Ne, registered_iff h]
  rintro ⟨r, hr⟩
  cases halive : c.alive with
  | false => exact (hcustody.dropped halive).2 r hr
  | true =>
      have hdisconnected := disconnected_of_settled h hlookup hsettled hended halive
      rw [(quiet_of_still hsettled.still).1] at hcustody
      rcases hcustody.covered r hr with hkept | hposts | hcalled | hcalled
      -- a listener that is disconnected keeps nothing, and what it posted would be due
      · exact absurd ((hcustody.severed hdisconnected).symm.trans hkept) nofun
      · obtain ⟨job, hjob, -, -, due, hwait, hdue⟩ := hposts
        have hready := Executor.ready_of_deadline hwait
          (w.session.timers.executor.deadlineAfter .zero)
        rw [hsettled.calm job hjob] at hready
        exact absurd hready (by simp [hdue])
      · exact absurd hcalled nofun
      · exact absurd hcalled nofun

/-- Where everything due has run, nothing is left of a watcher that is not needed any more. -/
theorem gone_of_settled (hsettled : w.Settled) (hover : c.disconnected = true ∨ c.alive = false) :
    id ∉ w.session.timers.executor.tracked ∧ w.session.timers.executor.holds id = false := by
  have hvigil := h.vigil hlookup
  have hnone : ∀ job ∈ w.session.timers.executor.jobs, job.id ≠ id := by
    intro job hjob hid
    have hlive := hsettled.kept job hjob
    cases hwatcher : c.watcher with
    | none => exact hvigil.stopped hwatcher (hid ▸ h.rostered.sound.live job hjob hlive)
    | some number =>
        have hdisconnected : c.disconnected = true := hover.resolve_right fun hdropped =>
          absurd ((hvigil.dropped hdropped).symm.trans hwatcher) nofun
        have hended := (hvigil.severed hdisconnected).resolve_left fun hnone =>
          absurd (hnone.symm.trans hwatcher) nofun
        exact hended (accepting_of_settled hvigil hsettled hjob hid)
  refine ⟨fun htracked => ?_, ?_⟩
  · rcases h.rostered.accounted id htracked with ⟨job, hjob, hid, -⟩ | hrunning
    · exact hnone job hjob hid
    · rw [hsettled.frames] at hrunning
      exact absurd hrunning nofun
  · unfold Executor.holds
    simpa using hnone

end Tended

/-! ## What the receiver sees -/

/-- What the receiver finds, waiting so many times in a row. -/
def polls (w : LoopStage) (label : String) : Nat → List Reply
  | 0 => []
  | n + 1 =>
      let w := w.perform (.poll label)
      w.reply :: w.polls label n

theorem deliver_of_no_cues (h : w.cues = []) (reply : Reply) :
    w.deliver reply = { w with signal := .quiet, reply } := by
  unfold deliver
  dsimp only
  rw [h]

theorem perform_poll (hlookup : w.endpoint? label = some (.channel c held (some id)))
    (hcues : w.cues = []) (hreceiver : c.receiver ≠ .dropped) (hdropped : c.alive = false)
    (hgone : w.session.timers.executor.holds id = false) :
    w.perform (.poll label) =
      { w.setEndpoint label (.channel { c with buffer := c.buffer.tail } held (some id)) with
        signal := .quiet
        reply := c.buffer.head?.elim .nothing .notice } := by
  have hsending : c.sending (some id) w.session.timers = false :=
    Bool.or_eq_false_iff.mpr ⟨hdropped, hgone⟩
  have hcues' : (w.setEndpoint label
      (.channel { c with buffer := c.buffer.tail } held (some id))).cues = [] := hcues
  rw [← deliver_of_no_cues hcues']
  unfold perform withReceiver
  dsimp only
  rw [hlookup]
  dsimp only
  rw [if_neg hreceiver, hsending, c.poll_of_gone]
  cases c.buffer.head? <;> rfl

theorem endpoint?_setEndpoint {old : Endpoint} (h : w.endpoint? label = some old) (new : Endpoint) :
    (w.setEndpoint label new).endpoint? label = some new := by
  show (replace w.endpoints label new).lookup label = _
  rw [lookup_replace, show w.endpoints.lookup label = _ from h, Option.map_some, if_pos rfl]

/-- Once nobody holds the sending end, a receiver finds what is buffered and then the end. -/
theorem polls_of_gone (hlookup : w.endpoint? label = some (.channel c held (some id)))
    (hcues : w.cues = []) (hreceiver : c.receiver ≠ .dropped) (hdropped : c.alive = false)
    (hgone : w.session.timers.executor.holds id = false) (n : Nat) :
    w.polls label (c.buffer.length + n) = c.buffer.map .notice ++ List.replicate n .nothing := by
  induction hbuffer : c.buffer generalizing w c with
  | nil =>
      rw [List.length_nil, Nat.zero_add, List.map_nil, List.nil_append]
      induction n generalizing w c with
      | zero => rfl
      | succ n ih =>
          rw [polls, perform_poll hlookup hcues hreceiver hdropped hgone, hbuffer,
            List.replicate_succ]
          exact congrArg _ (ih (c := { c with buffer := [] })
            (endpoint?_setEndpoint hlookup _) hcues hreceiver hdropped hgone rfl)
  | cons notice rest ih =>
      rw [List.length_cons, Nat.add_right_comm, polls,
        perform_poll hlookup hcues hreceiver hdropped hgone, hbuffer]
      exact congrArg _ (ih (c := { c with buffer := rest })
        (endpoint?_setEndpoint hlookup _) hcues hreceiver hdropped hgone rfl)

/-! ## The whole of it -/

/-- Watchers neither leak nor miss, over every run in which no watched listener is registered
twice. As long as the listener is alive and connected and the receiver is open, exactly one
watcher of it is in the books. Once the receiver is gone and everything due has run, the listener
is disconnected and not registered, whether or not anything was sent. Once the listener is
disconnected or gone and everything due has run, no task of its watcher is in the books or waits,
and if it is gone the receiver finds what is buffered and then the end. -/
theorem watchers_neither_leak_nor_miss (h : Reaches w log) (honce : log.Nodup)
    (hlookup : w.endpoint? label = some (.channel c held (some id))) :
    (c.alive = true → c.disconnected = false → c.receiver = .accepting →
      w.watchers label = [id]) ∧
    (w.Settled → c.receiver ≠ .accepting →
      (c.alive = true → c.disconnected = true) ∧ w.registered label = false) ∧
    (w.Settled → c.disconnected = true ∨ c.alive = false →
      w.watchers label = [] ∧ id ∉ w.session.timers.executor.tracked ∧
        w.session.timers.executor.holds id = false) ∧
    (w.Settled → c.alive = false → c.receiver ≠ .dropped → ∀ n,
      w.polls label (c.buffer.length + n) =
        c.buffer.map .notice ++ List.replicate n .nothing) := by
  obtain ⟨role, htended⟩ := h.tends honce
  refine ⟨watchers_of_accepting htended hlookup, fun hsettled hended => ?_,
    fun hsettled hover => ?_, fun hsettled hdropped hreceiver => ?_⟩
  · exact ⟨disconnected_of_settled htended hlookup hsettled hended,
      not_registered_of_settled htended hlookup hsettled hended⟩
  · obtain ⟨htracked, hholds⟩ := gone_of_settled htended hlookup hsettled hover
    refine ⟨List.eq_nil_iff_forall_not_mem.mpr fun other hother => htracked ?_, htracked, hholds⟩
    exact (eq_of_mem_watchers htended hlookup hother).2
  · have hgone := (gone_of_settled htended hlookup hsettled (.inr hdropped)).2
    exact polls_of_gone hlookup (quiet_of_still hsettled.still).2 hreceiver hdropped hgone

/-- A watched listener is registered and notified. -/
def told : LoopStage :=
  (((fresh ⟨fun _ => .zero, 0⟩ (.scripted [])).perform (.add "" default .watched)).run 2).perform
    (.notify "")

/-- Its receiver is closed, a millisecond passes, and it is dropped. -/
def parted : LoopStage :=
  (((told.perform (.close "")).perform (.travel (.advance (.ofNanos 1000000)))).run 12).perform
    (.dropListener "")

/-- First there is one watcher; in the end there is none, and what was sent is still there. -/
theorem watchers_neither_leak_nor_miss_parted :
    told.watchers "" = [0] ∧ parted.registered "" = false ∧ parted.watchers "" = [] ∧
      parted.polls "" 2 = [.notice ⟨(default : Origin).text, 1⟩, .nothing] := by
  have htold : Reaches told [""] :=
    .acts (Reaches.run (.acts (.fresh _ _) rfl (.add "" default .watched)) 2) rfl _
  have hparted : Reaches parted [""] := by
    have hclosed : Reaches (told.perform (.close "")) [""] := .acts htold rfl _
    exact .acts (Reaches.run (.acts hclosed rfl (.travel (.advance (.ofNanos 1000000)))) 12) rfl _
  have honce : [""].Nodup := List.nodup_singleton _
  have hjobs : parted.session.timers.executor.jobs = [] := rfl
  have hsettled : parted.Settled := ⟨rfl, rfl, by rw [hjobs]; nofun, by rw [hjobs]; nofun⟩
  obtain ⟨hone, -⟩ := watchers_neither_leak_nor_miss htold honce
    (show told.endpoint? "" = some (.channel _ true (some 0)) from rfl)
  obtain ⟨-, hmissed, hleaked, hdrained⟩ := watchers_neither_leak_nor_miss hparted honce
    (show parted.endpoint? "" = some (.channel _ false (some 0)) from rfl)
  exact ⟨hone rfl rfl rfl, (hmissed hsettled nofun).2, (hleaked hsettled (.inr rfl)).1,
    hdrained hsettled rfl nofun 1⟩

end Stage

end Cadence.Rehearsal.Broadcasting
