import Cadence.Proofs.Pause.Changes
import Cadence.Proofs.Pause.Signals

/-! # The grace and the release

While sources are observed the coordinator keeps the longest grace that was asked for
since the set was last empty. With the last source the pause is given up at once, or
the release timer is armed for the grace. Its task then runs exactly when the grace
is over, unless a pause request or the end of the coordinator calls it off.
-/

namespace Cadence.Pause

namespace Session

/-! ## The grace of an episode -/

/-- A move ends the episode and drops its grace, or adds to it what the move asks for. -/
theorem perform_grace {s : OnAgenda} (hattuned : Attuned s.coordinator.timer s.timers)
    (hquiet : s.coordinator.observed = [] → s.coordinator.grace = .zero) (m : Move) :
    ((s.perform m).session.coordinator.observed = [] →
      (s.perform m).session.coordinator.grace = .zero) ∧
    ((s.perform m).session.coordinator.observed ≠ [] →
      (s.perform m).session.coordinator.grace =
        (s.asked m).toList.foldl Span.max s.coordinator.grace) := by
  obtain ⟨c, a, hchange, hreach⟩ := perform_change hattuned m
  cases hreach with
  | goes closed coordinator timers =>
      rw [coordinator, Coordinator.close_state.1]
      exact ⟨fun _ => rfl, fun hbusy => absurd rfl hbusy⟩
  | stays standing coordinator timers =>
      rw [coordinator]
      cases hchange with
      | keep quiet => exact ⟨hquiet, fun _ => by rw [quiet]; rfl⟩
      | adopt quiet => exact ⟨hquiet, fun _ => by rw [quiet]; rfl⟩
      | take sources grace busy asked =>
          rw [asked]
          exact ⟨fun hempty => absurd hempty (Coordinator.taken_stirs grace busy).2,
            fun _ => Coordinator.taken_grace busy grace⟩
      | leave source move others =>
          subst move
          exact ⟨fun hempty => absurd hempty others, fun _ => rfl⟩
      | giveUp source move last grace =>
          exact ⟨fun _ => grace, fun hbusy => absurd rfl hbusy⟩
      | arm source move last grace => exact ⟨fun _ => rfl, fun hbusy => absurd rfl hbusy⟩
      | alarm drive rest e b move =>
          subst move
          exact ⟨hquiet, fun _ => rfl⟩
      | arrive drive rest move =>
          subst move
          exact ⟨hquiet, fun _ => rfl⟩

/-- With no source observed there is no grace. -/
theorem grace_eq_zero (moves : List Move) :
    (fresh.after moves).coordinator.observed = [] →
      (fresh.after moves).coordinator.grace = .zero := by
  induction moves using List.reverseRecOn with
  | nil => exact fun _ => rfl
  | append_singleton moves m ih =>
      rw [after_concat]
      exact (perform_grace (Signalled.run moves).2.attuned ih m).1

/-- Throughout an episode the grace is the longest that was asked for in it. -/
theorem grace_of_episode (before episode : List Move)
    (hquiet : (fresh.after before).coordinator.observed = [])
    (hbusy : ∀ part, part <+: episode → part ≠ [] →
      (fresh.after (before ++ part)).coordinator.observed ≠ []) :
    (fresh.after (before ++ episode)).coordinator.grace =
      ((fresh.after before).asks episode).foldl Span.max .zero := by
  induction episode using List.reverseRecOn with
  | nil =>
      rw [List.append_nil]
      exact grace_eq_zero before hquiet
  | append_singleton episode m ih =>
      have hstep := perform_grace (Signalled.run (before ++ episode)).2.attuned
        (grace_eq_zero (before ++ episode)) m
      have hlast := hbusy (episode ++ [m]) (List.prefix_refl _) (by simp)
      rw [← List.append_assoc, after_concat] at hlast ⊢
      rw [hstep.2 hlast, asks_concat, List.foldl_append, ← after_append]
      congr 1
      exact ih fun part hpart => hbusy part (hpart.trans (List.prefix_append episode [m]))

/-- A run ends in an episode, which began when the set was last empty. -/
theorem exists_episode (moves : List Move) :
    ∃ before episode, moves = before ++ episode ∧
      (fresh.after before).coordinator.observed = [] ∧
      ∀ part, part <+: episode → part ≠ [] →
        (fresh.after (before ++ part)).coordinator.observed ≠ [] := by
  induction moves using List.reverseRecOn with
  | nil => exact ⟨[], [], rfl, rfl, fun part hpart hsome => absurd (List.prefix_nil.mp hpart) hsome⟩
  | append_singleton moves m ih =>
      by_cases hquiet : (fresh.after (moves ++ [m])).coordinator.observed = []
      · exact ⟨moves ++ [m], [], by simp, hquiet,
          fun part hpart hsome => absurd (List.prefix_nil.mp hpart) hsome⟩
      · obtain ⟨before, episode, rfl, hbefore, hbusy⟩ := ih
        refine ⟨before, episode ++ [m], by simp, hbefore, fun part hpart hsome => ?_⟩
        rcases List.prefix_concat_iff.mp hpart with rfl | hpart
        · rwa [← List.append_assoc]
        · exact hbusy part hpart hsome

/-! ## The task of the release timer -/

/-- The release timer runs, and its task waits for this deadline. -/
structure Trails (id : TaskId) (due : Span) (c : Coordinator) (a : Agenda Alarm) : Prop where
  quiet : c.observed = []
  armed : c.timer.armed = true
  waiting : ∃ e, a.queue = [e] ∧ e.id = id ∧ e.key.deadline = due

/-- The task has run or was taken back, and its number is not handed out again. -/
structure Spent (id : TaskId) (a : Agenda Alarm) : Prop where
  issued : id < a.nextId
  gone : ∀ e ∈ a.queue, e.id ≠ id

variable {s : OnAgenda} {calls : List Call} {id : TaskId} {due : Span}

theorem spent_of_queue {a : Agenda Alarm} (hissued : id < a.nextId) (hqueue : a.queue = []) :
    Spent id a :=
  ⟨hissued, fun _ he => absurd he (hqueue ▸ List.not_mem_nil)⟩

/-- A coordinator that goes away takes its task back. -/
theorem spent_close {c : Coordinator} {a : Agenda Alarm} (hattuned : Attuned c.timer a)
    (hissued : id < a.nextId) : Spent id (c.close a).timers := by
  rw [Coordinator.close_state.2]
  refine spent_of_queue ?_ hattuned.stop_queue
  exact (OneShot.nextId_stop c.timer a).symm ▸ hissued

theorem Spent.change {m : Move} {c : Coordinator} {a : Agenda Alarm} (h : Spent id s.timers)
    (hs : Upholds Signalled s calls) (hchange : Change s m c a) : Spent id a := by
  have hattuned := hchange.attuned hs.2.attuned hs.2.ascending hs.1
  have hissued := Nat.lt_of_lt_of_le h.issued hchange.nextId_le
  cases hchange with
  | keep => exact h
  | adopt => exact h
  | take sources grace busy =>
      exact spent_of_queue hissued (hattuned.idle (Coordinator.taken_stirs grace busy).1)
  | leave => exact h
  | giveUp => exact h
  | arm source move last grace =>
      refine ⟨hissued, fun e he => ?_⟩
      rw [hs.2.attuned.start_queue, List.mem_singleton] at he
      have hid : e.id = s.timers.nextId := by
        rw [he]
        exact OneShot.nextId_stop s.coordinator.timer s.timers
      exact hid ▸ (Nat.ne_of_lt h.issued).symm
  | alarm drive rest e b move before due =>
      obtain ⟨queue, hqueue, _, rfl⟩ := Agenda.popDue_eq_some_iff.mp due
      exact ⟨hissued, fun x hx => h.gone x (hqueue ▸ List.mem_cons_of_mem e hx)⟩
  | arrive => exact ⟨hissued, h.gone⟩

/-- What has gone does not come back. -/
theorem Spent.perform (h : Spent id s.timers) (hs : Upholds Signalled s calls) (m : Move) :
    Spent id (s.perform m).session.timers ∧
      .runningTask .agenda id ∉ (s.perform m).events := by
  obtain ⟨c, a, hchange, hreach⟩ := perform_change hs.2.attuned m
  have hspent := h.change hs hchange
  have hattuned := hchange.attuned hs.2.attuned hs.2.ascending hs.1
  constructor
  · cases hreach with
    | stays standing coordinator timers => exact timers ▸ hspent
    | goes closed coordinator timers => exact timers ▸ spent_close hattuned hspent.issued
  · intro hrun
    obtain ⟨_, drive, rest, e, b, _, hpop, hid⟩ := due_of_task hrun
    obtain ⟨queue, hqueue, _⟩ := Agenda.popDue_eq_some_iff.mp hpop
    exact h.gone e (hqueue ▸ List.mem_cons_self) hid

/-- A move neither runs the task nor calls it off. -/
def Spares (s : OnAgenda) (id : TaskId) (m : Move) : Prop :=
  s.asked m = none ∧ (s.perform m).session.standing ≠ .closed ∧
    .runningTask .agenda id ∉ (s.perform m).events

/-- The task still waits after a move that spares it, and is gone after any other. -/
theorem Trails.perform (h : Trails id due s.coordinator s.timers) (hpresent : s.standing ≠ .closed)
    (hs : Upholds Signalled s calls) (m : Move) :
    (Trails id due (s.perform m).session.coordinator (s.perform m).session.timers ∧
      s.Spares id m ∧
      (s.coordinator.held = true → (s.perform m).session.coordinator.held = true)) ∨
    (Spent id (s.perform m).session.timers ∧ ¬ s.Spares id m) := by
  obtain ⟨e, hqueue, hid, hdue⟩ := h.waiting
  have hissued : id < s.timers.nextId :=
    hid ▸ hs.2.attuned.sound.id_lt e (hqueue ▸ List.mem_cons_self)
  by_cases hrun : .runningTask .agenda id ∈ (s.perform m).events
  · obtain ⟨rfl, drive, rest, e', b, hframes, hpop, _⟩ := due_of_task hrun
    refine .inr ⟨?_, fun hspares => hspares.2.2 hrun⟩
    rw [(perform_due hs.2.attuned hframes hpop).2.1]
    have hempty := (Agenda.popDue_of_singleton hqueue hpop).2
    obtain ⟨queue, _, _, rfl⟩ := Agenda.popDue_eq_some_iff.mp hpop
    exact spent_of_queue hissued hempty
  obtain ⟨c, a, hchange, hreach⟩ := perform_change hs.2.attuned m
  have hattuned := hchange.attuned hs.2.attuned hs.2.ascending hs.1
  have hissued' := Nat.lt_of_lt_of_le hissued hchange.nextId_le
  cases hreach with
  | goes closed coordinator timers =>
      exact .inr ⟨timers ▸ spent_close hattuned hissued', fun hspares => hspares.2.1 closed⟩
  | stays standing coordinator timers =>
      have hpresent' : (s.perform m).session.standing ≠ .closed := by
        rcases standing with heq | ⟨_, heq⟩
        · exact heq ▸ hpresent
        · simp [heq]
      rw [coordinator, timers]
      cases hchange with
      | keep quiet => exact .inl ⟨h, ⟨quiet, hpresent', hrun⟩, fun hheld => hheld⟩
      | adopt quiet =>
          exact .inl ⟨⟨h.quiet, h.armed, h.waiting⟩, ⟨quiet, hpresent', hrun⟩, fun _ => rfl⟩
      | take sources grace busy asked =>
          refine .inr ⟨spent_of_queue hissued' ?_, fun hspares => ?_⟩
          · exact hattuned.idle (Coordinator.taken_stirs grace busy).1
          · exact absurd (asked.symm.trans hspares.1) nofun
      | leave source move others => exact absurd (by rw [h.quiet]; rfl) others
      | giveUp source move last => exact absurd (h.quiet.symm.trans last) nofun
      | arm source move last => exact absurd (h.quiet.symm.trans last) nofun
      | alarm drive rest e' b move before due' =>
          -- the only task that waits is this one, and it did not run
          subst move
          obtain ⟨rfl, _⟩ := Agenda.popDue_of_singleton hqueue due'
          exact absurd (hid ▸ (perform_due hs.2.attuned before due').1) hrun
      | arrive drive rest move before idle =>
          subst move
          exact .inl ⟨⟨h.quiet, h.armed, h.waiting⟩, ⟨rfl, hpresent', hrun⟩, fun hheld => hheld⟩

/-- In these moves the task has not run, no pause was asked for, and the coordinator has
not gone away. -/
def Calm (t : OnAgenda) (id : TaskId) (later : List Move) : Prop :=
  t.asks later = [] ∧ (t.after later).standing ≠ .closed ∧ .runningTask .agenda id ∉ t.events later

theorem calm_concat {before later : List Move} {m : Move} :
    (fresh.after before).Calm id (later ++ [m]) ↔
      (fresh.after before).Calm id later ∧ ((fresh.after before).after later).Spares id m := by
  have hopen : ((fresh.after before).after (later ++ [m])).standing ≠ .closed →
      ((fresh.after before).after later).standing ≠ .closed := by
    rw [after_concat, ← after_append]
    intro hopen hclosed
    obtain ⟨c, a, _, hreach⟩ := perform_change (Signalled.run (before ++ later)).2.attuned m
    exact hopen (hclosed ▸ hreach).closed
  unfold Calm Spares
  rw [← after_concat, asks_concat, events_concat, List.append_eq_nil_iff, List.mem_append, not_or]
  constructor
  · rintro ⟨⟨hasks, hask⟩, hstanding, hran, hrun⟩
    exact ⟨⟨hasks, hopen hstanding, hran⟩, by simpa using hask, hstanding, hrun⟩
  · rintro ⟨⟨hasks, _, hran⟩, hask, hstanding, hrun⟩
    exact ⟨⟨hasks, by simp [hask]⟩, hstanding, hran, hrun⟩

theorem upholds_after (before later : List Move) :
    Upholds Signalled ((fresh.after before).after later) (fresh.calls (before ++ later)) :=
  after_append fresh before later ▸ Signalled.run (before ++ later)

/-- Once the timer is armed, its task waits as long as these moves stay calm, and no longer. -/
theorem Trails.after {before : List Move}
    (h : Trails id due (fresh.after before).coordinator (fresh.after before).timers)
    (hpresent : (fresh.after before).standing ≠ .closed) (later : List Move) :
    let t := fresh.after before
    let u := t.after later
    (Trails id due u.coordinator u.timers ∧ t.Calm id later ∧
      (t.coordinator.held = true → u.coordinator.held = true)) ∨
    (Spent id u.timers ∧ ¬ t.Calm id later) := by
  intro t u
  induction later using List.reverseRecOn with
  | nil => exact .inl ⟨h, ⟨rfl, hpresent, List.not_mem_nil⟩, fun hheld => hheld⟩
  | append_singleton later m ih =>
      have hs := upholds_after before later
      simp only [u, after_concat, t, calm_concat]
      rcases ih with ⟨htrails, hcalm, hheld⟩ | ⟨hspent, hcalm⟩
      · rcases htrails.perform hcalm.2.1 hs m with ⟨htrails', hspares, hheld'⟩ | ⟨hspent, hspares⟩
        · exact .inl ⟨htrails', ⟨hcalm, hspares⟩, fun h => hheld' (hheld h)⟩
        · exact .inr ⟨hspent, fun hboth => hspares hboth.2⟩
      · exact .inr ⟨(hspent.perform hs m).1, fun hboth => hcalm hboth.1⟩

/-- The task gives the pause up exactly when it is due. Until then the timer runs and the
pause stays held, unless the task is called off, and then it never runs. -/
structure ReleasesAt (t : OnAgenda) (id : TaskId) (due : Span) : Prop where
  waits : ∀ later, t.Calm id later →
    (t.after later).coordinator.timer.isRunning = true ∧ (t.after later).timers.elapsed ≤ due ∧
      (t.coordinator.held = true → (t.after later).coordinator.held = true)
  prompt : ∀ later, t.Calm id later → ∀ drive rest,
    (t.after later).frames = .travelling drive :: rest → due ≤ drive.limit →
      .runningTask .agenda id ∈ ((t.after later).perform .proceed).events
  runs : ∀ later m, .runningTask .agenda id ∈ ((t.after later).perform m).events →
    t.Calm id later ∧ ((t.after later).perform m).session.timers.elapsed = due ∧
      ((t.after later).perform m).session.coordinator.held = false ∧
      ((t.after later).coordinator.held = true →
        ((t.after later).perform m).signal = .called .release)

theorem Trails.releasesAt {before : List Move}
    (h : Trails id due (fresh.after before).coordinator (fresh.after before).timers)
    (hpresent : (fresh.after before).standing ≠ .closed) :
    (fresh.after before).ReleasesAt id due where
  waits later hcalm := by
    obtain ⟨htrails, _, hheld⟩ := (h.after hpresent later).resolve_right fun hgone => hgone.2 hcalm
    obtain ⟨e, hqueue, _, hdue⟩ := htrails.waiting
    have hattuned := (upholds_after before later).2.attuned
    refine ⟨htrails.armed, ?_, hheld⟩
    exact hdue ▸ hattuned.sound.not_overdue e (hqueue ▸ List.mem_cons_self)
  prompt later hcalm drive rest hframes hlimit := by
    obtain ⟨htrails, _, _⟩ := (h.after hpresent later).resolve_right fun hgone => hgone.2 hcalm
    obtain ⟨e, hqueue, hid, hdue⟩ := htrails.waiting
    have hattuned := (upholds_after before later).2.attuned
    have hpop := Agenda.popDue_eq_some_iff.mpr ⟨[], hqueue, hdue ▸ hlimit, rfl⟩
    exact hid ▸ (perform_due hattuned hframes hpop).1
  runs later m hrun := by
    have hs := upholds_after before later
    rcases h.after hpresent later with ⟨htrails, hcalm, _⟩ | ⟨hspent, _⟩
    · obtain ⟨e, hqueue, _, hdue⟩ := htrails.waiting
      obtain ⟨rfl, drive, rest, e', b, hframes, hpop, _⟩ := due_of_task hrun
      obtain ⟨_, htimers, hheld, hsignal⟩ := perform_due hs.2.attuned hframes hpop
      have helapsed := hs.2.attuned.sound.started_elapsed hpop
      obtain ⟨rfl, _⟩ := Agenda.popDue_of_singleton hqueue hpop
      exact ⟨hcalm, htimers ▸ helapsed.trans hdue, hheld, hsignal⟩
    · exact absurd hrun (hspent.perform hs m).2

/-! ## The last source -/

/-- With no grace the last source takes the pause with it. -/
theorem perform_finish_last {source : SourceId} (howned : s.standing = .owned)
    (hlast : s.coordinator.observed = [source]) (hgrace : s.coordinator.grace = .zero) :
    (s.perform (.finish source)).session =
      { s with
        coordinator := { s.coordinator with observed := [], held := false }
        frames := .within .request (.unobserved s.coordinator.held) :: s.frames } := by
  show (s.request _).session = _
  unfold request Coordinator.finish
  simp [howned, hlast, hgrace, settle, Coordinator.giveUp, Span.isZero]

/-- With a grace the last source arms the release timer for it. -/
theorem perform_finish_trailing {source : SourceId} (howned : s.standing = .owned)
    (hlast : s.coordinator.observed = [source]) (hgrace : s.coordinator.grace ≠ .zero) :
    (s.perform (.finish source)).session =
      { s with
        coordinator := { s.coordinator with
          observed := []
          grace := .zero
          timer := (s.coordinator.timer.start s.timers s.coordinator.grace Alarm.mk).1 }
        timers := (s.coordinator.timer.start s.timers s.coordinator.grace Alarm.mk).2
        frames := .within .request (.unobserved false) :: s.frames } := by
  have hzero : s.coordinator.grace.isZero = false :=
    Bool.eq_false_iff.mpr fun heq => hgrace (Span.isZero_iff.mp heq)
  show (s.request _).session = _
  unfold request Coordinator.finish
  simp [howned, hlast, hzero, settle]

/-- The task of a timer that was just armed waits for exactly the grace. -/
theorem trails_finish {source : SourceId} (hattuned : Attuned s.coordinator.timer s.timers)
    (howned : s.standing = .owned) (hlast : s.coordinator.observed = [source])
    (hgrace : s.coordinator.grace ≠ .zero) :
    Trails (s.coordinator.timer.stop s.timers).2.nextId (s.timers.elapsed + s.coordinator.grace)
      (s.perform (.finish source)).session.coordinator
      (s.perform (.finish source)).session.timers := by
  rw [perform_finish_trailing howned hlast hgrace]
  refine ⟨rfl, rfl, _, hattuned.start_queue s.coordinator.grace, rfl, ?_⟩
  show (s.coordinator.timer.stop s.timers).2.elapsed + s.coordinator.grace = _
  rw [OneShot.elapsed_stop s.coordinator.timer s.timers]

/-- A move makes the pause fall only with the coordinator, with the last source, or with
the timer's task. -/
theorem held_lost (hs : Upholds Signalled s calls) {m : Move}
    (hheld : s.coordinator.held = true)
    (hlost : (s.perform m).session.coordinator.held = false) :
    (s.perform m).session.standing = .closed ∨
      (s.perform m).session.coordinator.observed = [] ∧
        ((∃ source, m = .finish source ∧ s.coordinator.observed = [source] ∧
          s.coordinator.grace = .zero) ∨
        ∃ id, s.coordinator.timer.pending = some id ∧
          .runningTask .agenda id ∈ (s.perform m).events) := by
  obtain ⟨c, a, hchange, hreach⟩ := perform_change hs.2.attuned m
  cases hreach with
  | goes closed => exact .inl closed
  | stays standing coordinator timers =>
      rw [coordinator] at hlost ⊢
      cases hchange with
      | keep => exact absurd (hheld.symm.trans hlost) nofun
      | adopt => cases hlost
      | take sources grace =>
          rw [Coordinator.taken_held] at hlost
          exact absurd (hheld.symm.trans hlost) nofun
      | leave => exact absurd (hheld.symm.trans hlost) nofun
      | giveUp source move last grace => exact .inr ⟨rfl, .inl ⟨source, move, last, grace⟩⟩
      | arm => exact absurd (hheld.symm.trans hlost) nofun
      | alarm drive rest e b move before due =>
          subst move
          obtain ⟨harmed, _, _⟩ := hs.2.attuned.of_popDue due
          obtain ⟨found, hqueue, hpending, _⟩ := hs.2.attuned.running harmed
          obtain ⟨rfl, _⟩ := Agenda.popDue_of_singleton hqueue due
          exact .inr ⟨hs.2.trailing harmed, .inr ⟨e.id, hpending,
            (perform_due hs.2.attuned before due).1⟩⟩
      | arrive => exact absurd (hheld.symm.trans hlost) nofun

end Session

open Session in
/-- The grace is always the longest that was asked for since the set was last empty. With
the last source the pause is given up at once if there is none, and otherwise the timer
is armed for the grace: its task gives the pause up exactly when the grace is over,
unless a request or the end of the coordinator comes first. While a source is observed
only the coordinator's own end makes the pause fall. -/
theorem pause_trails_for_longest_grace (moves : List Move) :
    let s := fresh.after moves
    (∃ before episode, moves = before ++ episode ∧
      (fresh.after before).coordinator.observed = [] ∧
      (∀ part, part <+: episode → part ≠ [] →
        (fresh.after (before ++ part)).coordinator.observed ≠ []) ∧
      s.coordinator.grace = ((fresh.after before).asks episode).foldl Span.max .zero) ∧
    (∀ source, s.standing = .owned → s.coordinator.observed = [source] →
      let t := (s.perform (.finish source)).session
      t.coordinator.observed = [] ∧ t.coordinator.grace = .zero ∧
      (s.coordinator.grace = .zero → t.coordinator.held = false ∧
        t.frames = .within .request (.unobserved s.coordinator.held) :: s.frames) ∧
      (s.coordinator.grace ≠ .zero → t.coordinator.held = s.coordinator.held ∧
        t.coordinator.timer.currentDelay = some s.coordinator.grace ∧
        ∃ id, t.coordinator.timer.pending = some id ∧
          t.ReleasesAt id (s.timers.elapsed + s.coordinator.grace))) ∧
    (∀ m, s.coordinator.held = true → (s.perform m).session.coordinator.held = false →
      (s.perform m).session.standing = .closed ∨
      (s.perform m).session.coordinator.observed = [] ∧
        ((∃ source, m = .finish source ∧ s.coordinator.observed = [source] ∧
          s.coordinator.grace = .zero) ∨
        ∃ id, s.coordinator.timer.pending = some id ∧
          .runningTask .agenda id ∈ (s.perform m).events)) := by
  intro s
  have hs : Upholds Signalled s (fresh.calls moves) := Signalled.run moves
  refine ⟨?_, fun source howned hlast => ?_, fun m hheld hlost => held_lost hs hheld hlost⟩
  · obtain ⟨before, episode, hmoves, hquiet, hbusy⟩ := exists_episode moves
    refine ⟨before, episode, hmoves, hquiet, hbusy, ?_⟩
    show (fresh.after moves).coordinator.grace = _
    rw [hmoves]
    exact grace_of_episode before episode hquiet hbusy
  · by_cases hgrace : s.coordinator.grace = .zero
    · rw [perform_finish_last howned hlast hgrace]
      exact ⟨rfl, hgrace, fun _ => ⟨rfl, rfl⟩, fun hsome => absurd hgrace hsome⟩
    · have htrails := trails_finish hs.2.attuned howned hlast hgrace
      have hperform := perform_finish_trailing howned hlast hgrace
      have hpresent : (s.perform (.finish source)).session.standing ≠ .closed := by
        rw [hperform]
        simp [howned]
      have hafter := after_concat fresh moves (.finish source)
      rw [← hafter] at htrails hpresent
      have hreleases := hafter ▸ htrails.releasesAt hpresent
      refine ⟨by rw [hperform], by rw [hperform], fun hnone => absurd hnone hgrace, fun _ => ?_⟩
      refine ⟨by rw [hperform], by rw [hperform]; rfl, _, ?_, hreleases⟩
      rw [hperform]
      rfl

end Cadence.Pause
