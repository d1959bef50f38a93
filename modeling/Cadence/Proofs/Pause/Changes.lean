import Cadence.Proofs.Pause.Run
import Cadence.Proofs.Pause.Sources

/-! # What a move changes

A move of a session does one thing to the coordinator and its agenda: sources are
taken in, an acquired pause is adopted, a source finishes, the task of the release
timer runs, or a drive ends. Where the coordinator goes away with the move, it closes
after that. A task runs only when a drive has its turn.
-/

namespace Cadence

namespace Span

theorem isZero_iff {d : Span} : d.isZero = true ↔ d = .zero := by
  unfold isZero
  rw [beq_iff_eq]
  exact ⟨fun h => Span.ext h, fun h => h ▸ rfl⟩

theorem max_max_self (a b : Span) : (a.max b).max b = a.max b := by
  by_cases h : a ≤ b
  · rw [max_eq_right h, max_eq_right (le_refl b)]
  · have hmax : a.max b = a := if_neg h
    rw [hmax, hmax]

end Span

namespace Pause

/-- The operation logs no task that runs. -/
def Progress.Silent {σ : Type} (p : Progress σ) : Prop :=
  ∀ runner id, .runningTask runner id ∉ p.events

namespace Coordinator

variable {c : Coordinator} {a : Agenda Alarm}

theorem pause_state (sources : List SourceId) (grace : Span) :
    (c.pause a sources grace).coordinator = (c.taken a sources grace).coordinator ∧
      (c.pause a sources grace).timers = (c.taken a sources grace).timers := by
  unfold pause taken
  dsimp only
  split <;> exact ⟨rfl, rfl⟩

theorem adopt_state (added : List SourceId) :
    ((c.adopt a added).coordinator = c ∨ (c.adopt a added).coordinator = { c with held := true }) ∧
      (c.adopt a added).timers = a := by
  unfold adopt
  dsimp only
  split
  · exact ⟨.inr rfl, rfl⟩
  · exact ⟨.inl rfl, rfl⟩

theorem closeNext_state {σ : Type} {a : σ} (rest : List SourceId) (held : Bool)
    (events : List Event) :
    (c.closeNext a rest held events).coordinator = c ∧
      (c.closeNext a rest held events).timers = a := by
  cases rest <;> exact ⟨rfl, rfl⟩

theorem gather_grace (grace : Span) (g : Gathering (Agenda Alarm)) (s : SourceId) :
    (gather grace g s).coordinator.grace = g.coordinator.grace.max grace := by
  unfold gather
  dsimp only
  split <;> rfl

/-- A request raises the grace to the one it asks for, however many sources it names. -/
theorem taken_grace {sources : List SourceId} (hsources : sources ≠ []) (grace : Span) :
    (c.taken a sources grace).coordinator.grace = c.grace.max grace := by
  unfold taken
  induction sources using List.reverseRecOn with
  | nil => exact absurd rfl hsources
  | append_singleton sources s ih =>
      rw [List.foldl_append]
      refine (gather_grace grace _ s).trans ?_
      by_cases hempty : sources = []
      · subst hempty
        rfl
      · rw [ih hempty, Span.max_max_self]

theorem gather_nextId (grace : Span) (g : Gathering (Agenda Alarm)) (s : SourceId) :
    (gather grace g s).timers.nextId = g.timers.nextId := by
  unfold gather
  dsimp only
  split <;> exact OneShot.nextId_stop _ _

theorem taken_nextId (sources : List SourceId) (grace : Span) :
    (c.taken a sources grace).timers.nextId = a.nextId := by
  unfold taken
  induction sources using List.reverseRecOn with
  | nil => rfl
  | append_singleton sources s ih =>
      rw [List.foldl_append]
      exact (gather_nextId grace _ s).trans ih

/-- A coordinator that goes away observes nothing, holds nothing and waits for nothing. -/
theorem close_state :
    (c.close a).coordinator =
      { observed := [], held := false, grace := .zero, timer := (c.timer.stop a).1 } ∧
      (c.close a).timers = (c.timer.stop a).2 :=
  closeNext_state _ _ _

/-! ## What is logged -/

theorem pause_silent (sources : List SourceId) (grace : Span) :
    (c.pause a sources grace).Silent := by
  intro runner id
  unfold pause
  dsimp only
  split <;> simp

theorem finish_silent (source : SourceId) : (c.finish a source).Silent := by
  intro runner id
  unfold finish giveUp
  dsimp only
  repeat' split
  all_goals simp

theorem alarm_silent (alarm : Alarm) : (c.alarm a alarm).Silent := by
  intro runner id
  unfold Coordinator.alarm giveUp
  dsimp only
  repeat' split
  all_goals simp

theorem close_silent : (c.close a).Silent := by
  intro runner id
  unfold Coordinator.close closeNext giveUp
  dsimp only
  repeat' split
  all_goals simp

theorem resume_silent (sources : List SourceId) (stage : Stage) :
    (c.resume a sources stage).Silent := by
  intro runner id
  cases stage with
  | acquired added =>
      unfold resume adopt
      dsimp only
      split <;> simp
  | observing rest => simp [resume]
  | unobserved givenUp => cases givenUp <;> simp [resume]
  | listing grace => exact pause_silent sources grace runner id
  | closing rest held => cases rest <;> simp [resume, closeNext]
  | finished => simp [resume]

end Coordinator

namespace Session

/-- The grace of the pause request that a move makes for at least one source. -/
def asked (s : OnAgenda) : Move → Option Span
  | .pause sources grace => if s.standing = .owned ∧ sources ≠ [] then some grace else none
  | .resume sources =>
      match s.frames with
      | .within _ (.listing grace) :: _ => if sources ≠ [] then some grace else none
      | _ => none
  | _ => none

/-- What some moves yield, in their order. -/
def collect {β : Type} (yield : OnAgenda → Move → List β) (s : OnAgenda) : List Move → List β
  | [] => []
  | m :: rest => yield s m ++ (s.perform m).session.collect yield rest

theorem collect_concat {β : Type} (yield : OnAgenda → Move → List β) (s : OnAgenda)
    (moves : List Move) (m : Move) :
    s.collect yield (moves ++ [m]) = s.collect yield moves ++ yield (s.after moves) m := by
  induction moves generalizing s with
  | nil => simp [collect]
  | cons first rest ih => simp only [List.cons_append, collect, ih, List.append_assoc]; rfl

/-- The graces asked for in some moves. -/
def asks (s : OnAgenda) (moves : List Move) : List Span :=
  s.collect (fun s m => (s.asked m).toList) moves

/-- What some moves log. -/
def events (s : OnAgenda) (moves : List Move) : List Event :=
  s.collect (fun s m => (s.perform m).events) moves

theorem asks_concat (s : OnAgenda) (moves : List Move) (m : Move) :
    s.asks (moves ++ [m]) = s.asks moves ++ ((s.after moves).asked m).toList :=
  collect_concat _ s moves m

theorem events_concat (s : OnAgenda) (moves : List Move) (m : Move) :
    s.events (moves ++ [m]) = s.events moves ++ ((s.after moves).perform m).events :=
  collect_concat _ s moves m

/-! ## Changes -/

/-- What a move does to the coordinator and its agenda, short of closing. -/
inductive Change (s : OnAgenda) (m : Move) : Coordinator → Agenda Alarm → Prop
  | keep (quiet : s.asked m = none) : Change s m s.coordinator s.timers
  | adopt (quiet : s.asked m = none) : Change s m { s.coordinator with held := true } s.timers
  | take (sources : List SourceId) (grace : Span) (busy : sources ≠ [])
      (asked : s.asked m = some grace) :
      Change s m (s.coordinator.taken s.timers sources grace).coordinator
        (s.coordinator.taken s.timers sources grace).timers
  | leave (source : SourceId) (move : m = .finish source)
      (others : s.coordinator.observed.erase source ≠ []) :
      Change s m { s.coordinator with observed := s.coordinator.observed.erase source } s.timers
  | giveUp (source : SourceId) (move : m = .finish source)
      (last : s.coordinator.observed = [source]) (grace : s.coordinator.grace = .zero) :
      Change s m { s.coordinator with observed := [], held := false } s.timers
  | arm (source : SourceId) (move : m = .finish source)
      (last : s.coordinator.observed = [source]) (grace : s.coordinator.grace ≠ .zero) :
      Change s m
        { s.coordinator with
          observed := []
          grace := .zero
          timer := (s.coordinator.timer.start s.timers s.coordinator.grace Alarm.mk).1 }
        (s.coordinator.timer.start s.timers s.coordinator.grace Alarm.mk).2
  | alarm (drive : Agenda.Drive) (rest : List (Frame Agenda.Drive)) (e : Entry Alarm)
      (b : Agenda Alarm) (move : m = .proceed) (before : s.frames = .travelling drive :: rest)
      (due : s.timers.popDue drive.limit = some (e, b)) :
      Change s m
        { s.coordinator with
          held := false
          timer := { s.coordinator.timer with armed := false } }
        (b.started e)
  | arrive (drive : Agenda.Drive) (rest : List (Frame Agenda.Drive)) (move : m = .proceed)
      (before : s.frames = .travelling drive :: rest)
      (idle : s.timers.popDue drive.limit = none) :
      Change s m s.coordinator (s.timers.settled drive)

/-- Where a move leads from such a change: the coordinator stays, or it goes away. -/
inductive Reaches (before : Standing) (t : OnAgenda) (c : Coordinator) (a : Agenda Alarm) : Prop
  | stays (standing : t.standing = before ∨ before = .owned ∧ t.standing = .orphaned)
      (coordinator : t.coordinator = c) (timers : t.timers = a)
  | goes (closed : t.standing = .closed) (coordinator : t.coordinator = (c.close a).coordinator)
      (timers : t.timers = (c.close a).timers)

theorem settle_reaches (s : OnAgenda) (entrance : Entrance) (p : Progress (Agenda Alarm)) :
    Reaches s.standing (s.settle entrance p).session p.coordinator p.timers := by
  unfold settle
  dsimp only
  split
  next => exact .stays (.inl rfl) rfl rfl
  next =>
    split
    next => exact .stays (.inl rfl) rfl rfl
    next => exact .stays (.inl rfl) rfl rfl
    next =>
      split
      next => split <;> exact .goes rfl rfl rfl
      next => exact .stays (.inl rfl) rfl rfl

/-- A request for no source at all changes nothing. -/
theorem pause_change {s : OnAgenda} {m : Move} {sources : List SourceId} {grace : Span}
    (hasked : s.asked m = if sources ≠ [] then some grace else none) :
    Change s m (s.coordinator.pause s.timers sources grace).coordinator
      (s.coordinator.pause s.timers sources grace).timers := by
  obtain ⟨hcoordinator, htimers⟩ :=
    s.coordinator.pause_state (a := s.timers) sources grace
  rw [hcoordinator, htimers]
  by_cases hsources : sources = []
  · subst hsources
    exact .keep hasked
  · rw [if_pos hsources] at hasked
    exact .take sources grace hsources hasked

theorem finish_change (s : OnAgenda) (source : SourceId) :
    Change s (.finish source) (s.coordinator.finish s.timers source).coordinator
      (s.coordinator.finish s.timers source).timers := by
  unfold Coordinator.finish
  split
  next hmem =>
    dsimp only
    split
    next hothers => exact .leave source rfl (by simpa using hothers)
    next hlast =>
      have hempty : s.coordinator.observed.erase source = [] := by
        simpa only [Bool.not_eq_true', Bool.not_eq_false, List.isEmpty_iff] using hlast
      have hsingle : s.coordinator.observed = [source] :=
        (List.erase_eq_nil_iff.mp hempty).resolve_left (List.ne_nil_of_mem hmem)
      rw [hempty]
      split
      next hzero => exact .giveUp source rfl hsingle (Span.isZero_iff.mp hzero)
      next hzero => exact .arm source rfl hsingle fun heq => hzero (Span.isZero_iff.mpr heq)
  next => exact .keep rfl

theorem resume_change {s : OnAgenda} {entrance : Entrance} {stage : Stage}
    {rest : List (Frame Agenda.Drive)} (hframes : s.frames = .within entrance stage :: rest)
    (sources : List SourceId) :
    Change s (.resume sources) (s.coordinator.resume s.timers sources stage).coordinator
      (s.coordinator.resume s.timers sources stage).timers := by
  have hquiet (h : ∀ grace, stage ≠ .listing grace) : s.asked (.resume sources) = none := by
    simp only [asked, hframes]
    split
    next heq =>
      cases heq
      exact absurd rfl (h _)
    next => rfl
  cases stage with
  | acquired added =>
      obtain ⟨hcoordinator, htimers⟩ := s.coordinator.adopt_state (a := s.timers) added
      show Change s _ (s.coordinator.adopt s.timers added).coordinator
        (s.coordinator.adopt s.timers added).timers
      rw [htimers]
      rcases hcoordinator with hcoordinator | hcoordinator <;> rw [hcoordinator]
      · exact .keep (hquiet nofun)
      · exact .adopt (hquiet nofun)
  | observing rest => exact .keep (hquiet nofun)
  | unobserved givenUp => cases givenUp <;> exact .keep (hquiet nofun)
  | listing grace => exact pause_change (by simp only [asked, hframes])
  | closing last held => cases last <;> exact .keep (hquiet nofun)
  | finished => exact .keep (hquiet nofun)

/-- The session at the start of the timer's task. -/
def opened (s : OnAgenda) (drive : Agenda.Drive) (rest : List (Frame Agenda.Drive))
    (e : Entry Alarm) (b : Agenda Alarm) : OnAgenda :=
  { s with
    timers := b.started e
    frames := .travelling { drive with ran := drive.ran + 1 } :: rest }

/-- What comes of a turn: the timer's task runs, the drive ends, or no drive is on top. -/
inductive Proceeds (s : OnAgenda) : Prop
  | runs (drive : Agenda.Drive) (rest : List (Frame Agenda.Drive)) (e : Entry Alarm)
      (b : Agenda Alarm) (before : s.frames = .travelling drive :: rest)
      (due : s.timers.popDue drive.limit = some (e, b))
      (out : s.perform .proceed =
        { (s.opened drive rest e b).settle .alarm (s.coordinator.alarm (b.started e) e.task) with
          events := .runningTask .agenda e.id ::
            ((s.opened drive rest e b).settle .alarm
              (s.coordinator.alarm (b.started e) e.task)).events })
  | ends (drive : Agenda.Drive) (rest : List (Frame Agenda.Drive))
      (before : s.frames = .travelling drive :: rest)
      (idle : s.timers.popDue drive.limit = none)
      (out : s.perform .proceed =
        { session := { s with timers := s.timers.settled drive, frames := rest }
          signal := .answered (.arrived drive.arrival) })
  | rests (still : ∀ drive rest, s.frames ≠ .travelling drive :: rest)
      (out : s.perform .proceed = { session := s })

theorem proceeds (s : OnAgenda) : Proceeds s := by
  obtain ⟨timers, coordinator, standing, frames⟩ := s
  match frames with
  | [] => exact .rests nofun rfl
  | .within entrance stage :: rest => exact .rests nofun rfl
  | .travelling drive :: rest =>
      cases hpop : timers.popDue drive.limit with
      | some found =>
          obtain ⟨e, b⟩ := found
          have hturn : Timeline.turn timers drive = _ := Agenda.turn_of_popDue_eq_some hpop
          refine .runs drive rest e b rfl hpop ?_
          simp only [perform, proceed, hturn]
          rfl
      | none =>
          have hturn : Timeline.turn timers drive = _ := Agenda.turn_of_popDue_eq_none hpop
          refine .ends drive rest rfl hpop ?_
          simp only [perform, proceed, hturn]

/-- The timer's task gives the pause up, and lets it go if it was held. -/
theorem perform_due {s : OnAgenda} (hattuned : Attuned s.coordinator.timer s.timers)
    {drive : Agenda.Drive} {rest : List (Frame Agenda.Drive)} {e : Entry Alarm}
    {b : Agenda Alarm} (hframes : s.frames = .travelling drive :: rest)
    (hpop : s.timers.popDue drive.limit = some (e, b)) :
    .runningTask .agenda e.id ∈ (s.perform .proceed).events ∧
      (s.perform .proceed).session.timers = b.started e ∧
      (s.perform .proceed).session.coordinator.held = false ∧
      (s.coordinator.held = true → (s.perform .proceed).signal = .called .release) := by
  obtain ⟨_, hfire, _⟩ := hattuned.of_popDue hpop
  cases s.proceeds with
  | runs drive' rest' e' b' before due out =>
      cases before.symm.trans hframes
      cases due.symm.trans hpop
      rw [out]
      refine ⟨List.mem_cons_self, ?_⟩
      unfold Coordinator.alarm
      rw [hfire]
      cases s.coordinator.held <;> simp [settle, Coordinator.giveUp]
  | ends drive' rest' before idle =>
      cases before.symm.trans hframes
      cases idle.symm.trans hpop
  | rests still => exact absurd hframes (still drive rest)

theorem alarm_change {s : OnAgenda} (hattuned : Attuned s.coordinator.timer s.timers)
    {drive : Agenda.Drive} {rest : List (Frame Agenda.Drive)} {e : Entry Alarm}
    {b : Agenda Alarm} (hframes : s.frames = .travelling drive :: rest)
    (hpop : s.timers.popDue drive.limit = some (e, b)) :
    Change s .proceed (s.coordinator.alarm (b.started e) e.task).coordinator
      (s.coordinator.alarm (b.started e) e.task).timers := by
  obtain ⟨_, hfire, _⟩ := hattuned.of_popDue hpop
  unfold Coordinator.alarm
  rw [hfire]
  exact .alarm drive rest e b rfl hframes hpop

/-- Every move is one such change, and a coordinator that goes away closes after it. -/
theorem perform_change {s : OnAgenda} (hattuned : Attuned s.coordinator.timer s.timers)
    (m : Move) : ∃ c a, Change s m c a ∧ Reaches s.standing (s.perform m).session c a := by
  have hstill (hquiet : s.asked m = none) : ∃ c a, Change s m c a ∧ Reaches s.standing s c a :=
    ⟨_, _, .keep hquiet, .stays (.inl rfl) rfl rfl⟩
  cases m with
  | pause sources grace =>
      show ∃ c a, _ ∧ Reaches s.standing (s.request _).session c a
      unfold request
      split
      next howned =>
        exact ⟨_, _, pause_change (by simp [asked, howned]), s.settle_reaches .request _⟩
      next hstanding => exact hstill (by simp [asked, hstanding])
  | pauseAll grace =>
      show ∃ c a, _ ∧ Reaches s.standing (s.request _).session c a
      unfold request
      split
      next => exact ⟨_, _, .keep rfl, s.settle_reaches .request _⟩
      next => exact hstill rfl
  | finish source =>
      show ∃ c a, _ ∧ Reaches s.standing (s.request _).session c a
      unfold request
      split
      next => exact ⟨_, _, s.finish_change source, s.settle_reaches .request _⟩
      next => exact hstill rfl
  | letGo =>
      show ∃ c a, _ ∧ Reaches s.standing s.letGo.session c a
      unfold letGo
      split
      next => exact hstill rfl
      next hstanding =>
        split
        next => exact ⟨_, _, .keep rfl, .stays (.inr ⟨not_not.mp hstanding, rfl⟩) rfl rfl⟩
        next =>
          refine ⟨_, _, .keep rfl, ?_⟩
          unfold settle
          dsimp only
          split <;> exact .goes rfl rfl rfl
  | travel t =>
      show ∃ c a, _ ∧ Reaches s.standing (s.travel t).session c a
      unfold travel
      split
      next => exact ⟨_, _, .keep rfl, .stays (.inl rfl) rfl rfl⟩
      next => exact hstill rfl
  | resume sources =>
      show ∃ c a, _ ∧ Reaches s.standing (s.resume sources).session c a
      unfold resume
      split
      next entrance stage rest hframes =>
        exact ⟨_, _, resume_change hframes sources,
          settle_reaches { s with frames := rest } entrance _⟩
      next hidle =>
        refine hstill ?_
        simp only [asked]
        split
        next hframes => exact absurd hframes (hidle _ _ _)
        next => rfl
  | proceed =>
      cases s.proceeds with
      | runs drive rest e b before due out =>
          rw [out]
          exact ⟨_, _, alarm_change hattuned before due,
            settle_reaches (s.opened drive rest e b) .alarm _⟩
      | ends drive rest before idle out =>
          rw [out]
          exact ⟨_, _, .arrive drive rest rfl before idle, .stays (.inl rfl) rfl rfl⟩
      | rests still out =>
          rw [out]
          exact hstill rfl

/-- The release timer and its agenda stay attuned. -/
theorem Change.attuned {s : OnAgenda} {m : Move} {c : Coordinator} {a : Agenda Alarm}
    (h : Change s m c a) (hattuned : Attuned s.coordinator.timer s.timers)
    (hascending : s.coordinator.observed.Pairwise (· < ·)) (hformed : s.Formed) :
    Attuned c.timer a := by
  cases h with
  | keep => exact hattuned
  | adopt => exact hattuned
  | take sources grace =>
      exact (Coordinator.gathered_taken hattuned hascending sources grace).attuned
  | leave => exact hattuned
  | giveUp => exact hattuned
  | arm => exact hattuned.start s.coordinator.grace
  | alarm drive rest e b move before due => exact (hattuned.of_popDue due).2.2
  | arrive drive rest move before idle =>
      exact hattuned.settled (hformed.drives drive (before ▸ List.mem_cons_self)) idle

/-- Numbers of tasks are not taken back. -/
theorem Change.nextId_le {s : OnAgenda} {m : Move} {c : Coordinator} {a : Agenda Alarm}
    (h : Change s m c a) : s.timers.nextId ≤ a.nextId := by
  cases h with
  | keep => exact Nat.le_refl _
  | adopt => exact Nat.le_refl _
  | take sources grace => exact Nat.le_of_eq (Coordinator.taken_nextId sources grace).symm
  | leave => exact Nat.le_refl _
  | giveUp => exact Nat.le_refl _
  | arm =>
      have hstop := OneShot.nextId_stop s.coordinator.timer s.timers
      exact Nat.le_trans (Nat.le_of_eq hstop.symm) (Nat.le_succ _)
  | alarm drive rest e b move before due =>
      obtain ⟨queue, _, _, rfl⟩ := Agenda.popDue_eq_some_iff.mp due
      exact Nat.le_refl _
  | arrive => exact Nat.le_refl _

/-- A coordinator that has gone away is gone. -/
theorem Reaches.closed {t : OnAgenda} {c : Coordinator} {a : Agenda Alarm}
    (h : Reaches .closed t c a) : t.standing = .closed := by
  cases h with
  | stays standing => exact standing.resolve_right nofun
  | goes closed => exact closed

/-! ## Tasks that run -/

theorem task_not_mem_settle {s : OnAgenda} {entrance : Entrance} {p : Progress (Agenda Alarm)}
    (h : p.Silent) (runner : TaskRunner) (id : TaskId) :
    .runningTask runner id ∉ (s.settle entrance p).events := by
  unfold settle
  dsimp only
  split
  next => exact h runner id
  next =>
    split
    next => exact h runner id
    next => exact h runner id
    next =>
      split
      next =>
        split <;>
        · rw [List.mem_append, not_or]
          exact ⟨h runner id, Coordinator.close_silent runner id⟩
      next => exact h runner id

theorem task_not_mem_request {s : OnAgenda} {p : Progress (Agenda Alarm)} (h : p.Silent)
    (runner : TaskRunner) (id : TaskId) : .runningTask runner id ∉ (s.request p).events := by
  unfold request
  split
  next => exact task_not_mem_settle h runner id
  next => exact List.not_mem_nil

/-- A task runs only at the turn of a drive at which it is due. -/
theorem due_of_task {s : OnAgenda} {m : Move} {runner : TaskRunner} {id : TaskId}
    (h : .runningTask runner id ∈ (s.perform m).events) :
    m = .proceed ∧ ∃ drive rest e b, s.frames = .travelling drive :: rest ∧
      s.timers.popDue drive.limit = some (e, b) ∧ e.id = id := by
  cases m with
  | pause sources grace =>
      exact absurd h (task_not_mem_request (Coordinator.pause_silent sources grace) runner id)
  | pauseAll grace => exact absurd h (task_not_mem_request (fun _ _ => List.not_mem_nil) runner id)
  | finish source =>
      exact absurd h (task_not_mem_request (Coordinator.finish_silent source) runner id)
  | letGo =>
      refine absurd h ?_
      show _ ∉ s.letGo.events
      unfold letGo
      repeat' split
      · exact List.not_mem_nil
      · exact List.not_mem_nil
      · exact task_not_mem_settle Coordinator.close_silent runner id
  | travel t =>
      refine absurd h ?_
      show _ ∉ (s.travel t).events
      unfold travel
      split <;> exact List.not_mem_nil
  | resume sources =>
      refine absurd h ?_
      show _ ∉ (s.resume sources).events
      unfold resume
      split
      · exact task_not_mem_settle (Coordinator.resume_silent sources _) runner id
      · exact List.not_mem_nil
  | proceed =>
      cases s.proceeds with
      | runs drive rest e b before due out =>
          rw [out] at h
          rcases List.mem_cons.mp h with heq | hmem
          · cases heq
            exact ⟨rfl, drive, rest, e, b, before, due, rfl⟩
          · exact absurd hmem (task_not_mem_settle (Coordinator.alarm_silent _) runner id)
      | ends drive rest before idle out =>
          rw [out] at h
          exact absurd h List.not_mem_nil
      | rests still out =>
          rw [out] at h
          exact absurd h List.not_mem_nil

end Session

end Pause

end Cadence
