import Cadence.Proofs.Agenda.Run
import Cadence.Proofs.Timer.Firing
import Mathlib.Logic.Function.Basic

/-! # Timers on one agenda

Any number of timers share an agenda with each other and with plain tasks. A timer keeps
the number of its last task also after that task has run, and takes it back later on. As
numbers are never handed out twice, this finds either a task of the timer's own or nothing.
-/

namespace Cadence.OneShot

/-- A task on a shared agenda: that of a timer, or a plain one. -/
inductive Job (ν α : Type)
  | timed (owner : ν) (wrapped : Wrapped α)
  | plain (task : α)

/-- The timer that a task belongs to. -/
def Job.owner? {ν α : Type} : Job ν α → Option ν
  | timed owner _ => some owner
  | plain _ => none

/-- An agenda and the timers on it, as far as somebody still holds them. -/
structure Bench (ν α : Type) where
  session : Agenda.Session (Job ν α) := {}
  timer : ν → Option OneShot := fun _ => some {}

/-- What happens at a bench: somebody operates a timer, or uses the agenda directly. A task
that runs may do either. -/
inductive Act (ν α : Type)
  | start (name : ν) (delay : Span) (task : α)
  | stop (name : ν)
  | drop (name : ν)
  | schedule (delay : Span) (task : α)
  | cancel (id : TaskId)
  | travel (travel : Travel)
  | finish
  | proceed

/-- The timer that is operated. -/
def Act.timer? {ν α : Type} : Act ν α → Option ν
  | start name .. | stop name | drop name => some name
  | _ => none

namespace Bench

variable {ν α : Type}

/-- The tasks that wait. -/
def queue (x : Bench ν α) : List (Entry (Job ν α)) := x.session.agenda.queue

/-- The pending task of a timer is the only one of the timer that waits, and a number that a
timer knows belongs to no task but its own. -/
structure Kept (x : Bench ν α) : Prop where
  sound : x.session.Sound
  owned : ∀ e ∈ x.queue, ∀ name, e.task.owner? = some name →
    ∃ t, x.timer name = some t ∧ t.pending = some e.id
  known : ∀ name t id, x.timer name = some t → t.pending = some id →
    id < x.session.agenda.nextId ∧ ∀ e ∈ x.queue, e.id = id → e.task.owner? = some name

/-- Tasks may leave, and tasks that are no timer's may come. -/
theorem Kept.weaken {x y : Bench ν α} (h : x.Kept) (hsound : y.session.Sound)
    (hnext : x.session.agenda.nextId ≤ y.session.agenda.nextId)
    (hqueue : ∀ e ∈ y.queue, e ∈ x.queue ∨
      (e.task.owner? = none ∧ x.session.agenda.nextId ≤ e.id))
    (htimer : ∀ other, (y.timer other).map OneShot.pending = (x.timer other).map OneShot.pending) :
    y.Kept where
  sound := hsound
  owned e he other howner := by
    rcases hqueue e he with hold | ⟨hplain, -⟩
    · obtain ⟨t, ht, hid⟩ := h.owned e hold other howner
      have hsome := htimer other
      rw [ht] at hsome
      obtain ⟨t', ht', heq⟩ := Option.map_eq_some_iff.mp hsome
      exact ⟨t', ht', heq.trans hid⟩
    · cases hplain.symm.trans howner
  known other t' id ht' hid := by
    have hsome := htimer other
    rw [ht'] at hsome
    obtain ⟨t, ht, heq⟩ := Option.map_eq_some_iff.mp hsome.symm
    obtain ⟨hlt, hall⟩ := h.known other t id ht (heq.trans hid)
    refine ⟨Nat.lt_of_lt_of_le hlt hnext, fun e he heid => ?_⟩
    rcases hqueue e he with hold | ⟨-, hnew⟩
    · exact hall e hold heid
    · exact absurd (heid ▸ hnew) (Nat.not_le.mpr hlt)

variable [DecidableEq ν]

/-- Puts a timer and the agenda back. -/
def put (x : Bench ν α) (name : ν) (timer : Option OneShot) (agenda : Agenda (Job ν α)) :
    Bench ν α :=
  { session := { x.session with agenda }, timer := Function.update x.timer name timer }

/-- Operates a timer, if somebody still holds it. -/
def operate (x : Bench ν α) (name : ν)
    (f : OneShot → Agenda (Job ν α) → Option OneShot × Agenda (Job ν α)) : Bench ν α :=
  match x.timer name with
  | none => x
  | some t =>
      let (timer, agenda) := f t x.session.agenda
      x.put name timer agenda

/-- A task that starts first asks its timer. -/
def meet (x : Bench ν α) : Agenda.Signal (Job ν α) → Bench ν α
  | .started (.timed owner wrapped) _ =>
      match (x.timer owner).bind (·.fire wrapped.generation) with
      | some t => { x with timer := Function.update x.timer owner (some t) }
      | none => x
  | _ => x

/-- Makes a move on the agenda. -/
def move (x : Bench ν α) (m : Agenda.Move (Job ν α)) : Bench ν α :=
  { x with session := (x.session.perform m).1 }.meet (x.session.perform m).2

def act (x : Bench ν α) : Act ν α → Bench ν α
  | .start name delay task =>
      x.operate name fun t agenda =>
        let (t, agenda) := t.start agenda delay fun generation => .timed name ⟨generation, task⟩
        (some t, agenda)
  | .stop name =>
      x.operate name fun t agenda =>
        let (t, agenda) := t.stop agenda
        (some t, agenda)
  | .drop name => x.operate name fun t agenda => (none, (t.stop agenda).2)
  | .schedule delay task => x.move (.schedule delay (.plain task))
  | .cancel id => x.move (.cancel id)
  | .travel t => x.move (.travel t)
  | .finish => x.move .finish
  | .proceed => x.move .proceed

/-- The bench after some acts. -/
def course (x : Bench ν α) (acts : List (Act ν α)) : Bench ν α := acts.foldl act x

/-- The tasks of a timer that wait. -/
def tasksOf (x : Bench ν α) (name : ν) : List (Entry (Job ν α)) :=
  x.queue.filter fun e => e.task.owner? = some name

/-- The tasks that wait and are not a timer's. -/
def othersOf (x : Bench ν α) (name : ν) : List (Entry (Job ν α)) :=
  x.queue.filter fun e => e.task.owner? ≠ some name

theorem course_concat (x : Bench ν α) (acts : List (Act ν α)) (a : Act ν α) :
    x.course (acts ++ [a]) = (x.course acts).act a :=
  List.foldl_append

/-! ## Timers -/

variable {x : Bench ν α} {name : ν} {t : OneShot}

/-- What comes of an operation on a timer. -/
inductive Operated (x : Bench ν α) (name : ν) : Bench ν α → Prop
  /-- Nobody holds the timer any more. -/
  | gone (none : x.timer name = none) : Operated x name x
  /-- Its task is taken back. -/
  | stopped (t : OneShot) (timer : Option OneShot) (held : x.timer name = some t)
      (clear : ∀ t', timer = some t' → t'.pending = none) :
      Operated x name (x.put name timer (t.stop x.session.agenda).2)
  /-- Its task is taken back, and another one put off. -/
  | started (t timer : OneShot) (delay : Span) (wrapped : Wrapped α)
      (held : x.timer name = some t)
      (pending : timer.pending = some x.session.agenda.nextId) :
      Operated x name (x.put name (some timer)
        ((t.stop x.session.agenda).2.schedule delay (.timed name wrapped)).2)

theorem operated_act {a : Act ν α} (ha : a.timer? = some name) : Operated x name (x.act a) := by
  cases a with
  | start name delay task =>
      cases ha
      unfold act operate
      dsimp only
      cases ht : x.timer name with
      | none => exact .gone ht
      | some t =>
          refine .started t _ delay ⟨(t.stop x.session.agenda).1.generation, task⟩ ht ?_
          exact congrArg some (nextId_stop t x.session.agenda)
  | stop name =>
      cases ha
      unfold act operate
      dsimp only
      cases ht : x.timer name with
      | none => exact .gone ht
      | some t =>
          refine .stopped t (some (t.stop x.session.agenda).1) ht fun t' ht' => ?_
          cases ht'
          rfl
  | drop name =>
      cases ha
      unfold act operate
      dsimp only
      cases ht : x.timer name with
      | none => exact .gone ht
      | some t => exact .stopped t none ht fun _ ht' => nomatch ht'
  | schedule delay task => cases ha
  | cancel id => cases ha
  | travel t => cases ha
  | finish => cases ha
  | proceed => cases ha

/-- Stopping a timer takes its tasks out of the queue and nothing else. -/
theorem Kept.queue_stop (h : x.Kept) (ht : x.timer name = some t) :
    (t.stop x.session.agenda).2.queue = x.othersOf name := by
  unfold OneShot.stop
  cases hpending : t.pending with
  | none =>
      refine (List.filter_eq_self.mpr fun e he => ?_).symm
      have hnot : e.task.owner? ≠ some name := fun howner => by
        obtain ⟨t', ht', hid⟩ := h.owned e he name howner
        cases ht.symm.trans ht'
        exact absurd (hpending.symm.trans hid) nofun
      simpa using hnot
  | some id =>
      refine (h.sound.agenda.cancel_queue id).trans (List.filter_congr fun e he => ?_)
      have hiff : e.id = id ↔ e.task.owner? = some name := by
        refine ⟨(h.known name t id ht hpending).2 e he, fun howner => ?_⟩
        obtain ⟨t', ht', hid⟩ := h.owned e he name howner
        cases ht.symm.trans ht'
        exact (Option.some.inj (hpending.symm.trans hid)).symm
      simp [hiff]

theorem Kept.mem_stop (h : x.Kept) (ht : x.timer name = some t) {e : Entry (Job ν α)}
    (he : e ∈ (t.stop x.session.agenda).2.queue) : e ∈ x.queue ∧ e.task.owner? ≠ some name := by
  rw [h.queue_stop ht] at he
  simpa [othersOf] using he

/-- A timer that was stopped knows no task. -/
theorem Kept.stop (h : x.Kept) (ht : x.timer name = some t) {timer : Option OneShot}
    (htimer : ∀ t', timer = some t' → t'.pending = none) :
    (x.put name timer (t.stop x.session.agenda).2).Kept := by
  refine ⟨⟨sound_stop t h.sound.agenda, h.sound.aimed⟩, fun e he other howner => ?_, ?_⟩
  · obtain ⟨hold, hnot⟩ := h.mem_stop ht he
    have hne : other ≠ name := by
      rintro rfl
      exact hnot howner
    simpa [put, hne] using h.owned e hold other howner
  · intro other t' id ht' hid
    by_cases hne : other = name
    · subst hne
      simp only [put, Function.update_self] at ht'
      exact absurd (hid.symm.trans (htimer t' ht')) nofun
    · simp only [put, Function.update_of_ne hne] at ht'
      obtain ⟨hlt, hall⟩ := h.known other t' id ht' hid
      refine ⟨?_, fun e he => hall e (h.mem_stop ht he).1⟩
      show id < (t.stop x.session.agenda).2.nextId
      rwa [nextId_stop]

/-- A timer that was started knows the task that it has put off. -/
theorem Kept.start (h : x.Kept) (ht : x.timer name = some t) (delay : Span)
    (wrapped : Wrapped α) {timer : OneShot}
    (htimer : timer.pending = some x.session.agenda.nextId) :
    (x.put name (some timer)
      ((t.stop x.session.agenda).2.schedule delay (.timed name wrapped)).2).Kept := by
  have hmem : ∀ e ∈ ((t.stop x.session.agenda).2.schedule delay (.timed name wrapped)).2.queue,
      (e.id = x.session.agenda.nextId ∧ e.task.owner? = some name) ∨
        (e ∈ x.queue ∧ e.task.owner? ≠ some name) := fun e he => by
    rcases Agenda.mem_schedule.mp he with rfl | he
    · exact .inl ⟨nextId_stop t x.session.agenda, rfl⟩
    · exact .inr (h.mem_stop ht he)
  refine ⟨⟨(sound_stop t h.sound.agenda).schedule delay _, h.sound.aimed⟩,
    fun e he other howner => ?_, ?_⟩
  · rcases hmem e he with ⟨hid, hown⟩ | ⟨hold, hnot⟩
    · cases howner.symm.trans hown
      exact ⟨timer, by simp [put], by rw [htimer, hid]⟩
    · have hne : other ≠ name := by
        rintro rfl
        exact hnot howner
      simpa [put, hne] using h.owned e hold other howner
  · intro other t' id ht' hid
    show id < (t.stop x.session.agenda).2.nextId + 1 ∧ _
    rw [nextId_stop]
    by_cases hne : other = name
    · subst hne
      simp only [put, Function.update_self] at ht'
      cases ht'
      cases htimer.symm.trans hid
      refine ⟨Nat.lt_succ_self _, fun e he heid => ?_⟩
      rcases hmem e he with ⟨-, hown⟩ | ⟨hold, -⟩
      · exact hown
      · exact absurd heid (Nat.ne_of_lt (h.sound.agenda.id_lt e hold))
    · simp only [put, Function.update_of_ne hne] at ht'
      obtain ⟨hlt, hall⟩ := h.known other t' id ht' hid
      refine ⟨Nat.lt_succ_of_lt hlt, fun e he heid => ?_⟩
      rcases hmem e he with ⟨hnew, -⟩ | ⟨hold, -⟩
      · exact absurd (heid.symm.trans hnew) (Nat.ne_of_lt hlt)
      · exact hall e hold heid

theorem Kept.operated {y : Bench ν α} (h : x.Kept) (hop : Operated x name y) : y.Kept := by
  cases hop with
  | gone => exact h
  | stopped t timer held clear => exact h.stop held clear
  | started t timer delay wrapped held pending => exact h.start held delay wrapped pending

/-- Whoever operates a timer leaves all other tasks as they wait. -/
theorem Kept.othersOf_operated {y : Bench ν α} (h : x.Kept) (hop : Operated x name y) :
    y.othersOf name = x.othersOf name := by
  cases hop with
  | gone => rfl
  | stopped t timer held clear =>
      show (t.stop x.session.agenda).2.queue.filter _ = _
      rw [h.queue_stop held]
      exact (List.filter_filter ..).trans (List.filter_congr fun e _ => Bool.and_self _)
  | started t timer delay wrapped held pending =>
      show (Agenda.insert _ (t.stop x.session.agenda).2.queue).filter _ = _
      rw [← List.filterMap_eq_filter, Agenda.filterMap_insert (by simp [Option.guard, Job.owner?]),
        List.filterMap_eq_filter, h.queue_stop held]
      exact (List.filter_filter ..).trans (List.filter_congr fun e _ => Bool.and_self _)

/-! ## The agenda -/

/-- A task that asks its timer leaves the agenda alone, and the timer keeps the number. -/
theorem meet_frame (x : Bench ν α) (signal : Agenda.Signal (Job ν α)) :
    (x.meet signal).session = x.session ∧ ∀ other,
      ((x.meet signal).timer other).map OneShot.pending =
        (x.timer other).map OneShot.pending := by
  unfold meet
  split
  next owner wrapped events =>
    split
    next t hbind =>
      refine ⟨rfl, fun other => ?_⟩
      obtain ⟨before, hbefore, hfire⟩ := Option.bind_eq_some_iff.mp hbind
      by_cases hne : other = owner
      · subst hne
        have hpending : t.pending = before.pending := by
          unfold OneShot.fire at hfire
          split at hfire
          · exact Option.some.inj hfire ▸ rfl
          · cases hfire
        simp [hbefore, hpending]
      · simp [hne]
    next => exact ⟨rfl, fun _ => rfl⟩
  next => exact ⟨rfl, fun _ => rfl⟩

/-- A move on the agenda that puts off no timer's task leaves the timers what they know. -/
theorem Kept.move (h : x.Kept) {m : Agenda.Move (Job ν α)}
    (hplain : ∀ delay task, m = .schedule delay task → task.owner? = none) : (x.move m).Kept := by
  obtain ⟨hsession, htimer⟩ :=
    Bench.meet_frame { x with session := (x.session.perform m).1 } (x.session.perform m).2
  have hsession : (x.move m).session = (x.session.perform m).1 := hsession
  refine h.weaken (hsession ▸ h.sound.perform m) ?_ (fun e he => ?_) htimer
  · rw [hsession]
    exact x.session.nextId_le_perform m
  · rw [queue, hsession] at he
    rcases h.sound.mem_perform he with hold | ⟨delay, hm, heq⟩
    · exact .inl hold
    · refine .inr ⟨hplain delay e.task hm, ?_⟩
      rw [heq]
      exact Nat.le_refl _

theorem Kept.act (h : x.Kept) (a : Act ν α) : (x.act a).Kept := by
  cases a with
  | start name delay task => exact h.operated (operated_act rfl)
  | stop name => exact h.operated (operated_act rfl)
  | drop name => exact h.operated (operated_act rfl)
  | schedule delay task =>
      refine h.move fun _ _ heq => ?_
      cases heq
      rfl
  | cancel id => exact h.move nofun
  | travel t => exact h.move nofun
  | finish => exact h.move nofun
  | proceed => exact h.move nofun

theorem kept_course (acts : List (Act ν α)) : (({} : Bench ν α).course acts).Kept := by
  induction acts using List.reverseRecOn with
  | nil =>
      refine ⟨Agenda.Session.sound_fresh, by simp [queue, course], ?_⟩
      rintro name t id ⟨⟩
      nofun
  | append_singleton acts a ih =>
      rw [course_concat]
      exact ih.act a

/-- At most one task of each timer waits. -/
theorem Kept.length_tasksOf_le (h : x.Kept) (name : ν) : (x.tasksOf name).length ≤ 1 := by
  have hids : ((x.tasksOf name).map Entry.id).Nodup :=
    h.sound.agenda.ids_nodup.sublist (List.filter_sublist.map Entry.id)
  have hsame : ∀ e ∈ x.tasksOf name, ∀ f ∈ x.tasksOf name, e.id = f.id := by
    intro e he f hf
    obtain ⟨he, hown⟩ := List.mem_filter.mp he
    obtain ⟨hf, hown'⟩ := List.mem_filter.mp hf
    obtain ⟨t, ht, hid⟩ := h.owned e he name (by simpa using hown)
    obtain ⟨t', ht', hid'⟩ := h.owned f hf name (by simpa using hown')
    cases ht.symm.trans ht'
    exact Option.some.inj (hid.symm.trans hid')
  match htasks : x.tasksOf name with
  | [] => exact Nat.zero_le _
  | [_] => exact Nat.le_refl _
  | e :: f :: rest =>
      rw [htasks] at hids hsame
      have hne := (List.pairwise_cons.mp hids).1 f.id (by simp)
      exact absurd (hsame e (by simp) f (by simp)) hne

end Bench

/-! ## Timers on any service, and timers that share an agenda -/

/-- On any service that runs each task at most once, in any order and whether or not it was
taken back, a task begins exactly when the service runs it and its start is the latest
operation of the timer. So at most one start is outstanding, no task begins twice or after
the timer was dropped, and the timer is running exactly as long as the latest operation is a
start whose task has not begun. Where timers share an agenda, at most one task of each of
them waits, and whoever operates one of them leaves all other tasks as they wait. -/
theorem latest_start_alone_runs {σ α ν : Type} [TimerService σ (Wrapped α)] [DecidableEq ν]
    (timers : σ) (moves : List (Move σ α)) (hfew : moves.countP Move.isUse < UInt64.size)
    (honce : (moves.filterMap Move.run?).Nodup) (acts : List (Act ν α)) :
    let start : Session σ α := .opening timers
    let s := start.after moves
    let x := ({} : Bench ν α).course acts
    (∀ m task, (s.perform m).2 = some task ↔ ∃ n, m = .run n ∧ Latest moves n task) ∧
    (∀ n n', (s.perform (.run n)).2 ≠ none → (s.perform (.run n')).2 ≠ none → n = n') ∧
    (start.begun moves).Nodup ∧
    (.drop ∈ moves → ∀ m, (s.perform m).2 = none) ∧
    (s.timer.isRunning = true ↔ ∃ n task, Latest moves n task ∧ n ∉ start.begun moves) ∧
    (∀ name, (x.tasksOf name).length ≤ 1) ∧
    ∀ name a, a.timer? = some name → (x.act a).othersOf name = x.othersOf name := by
  intro start s x
  have hkept : x.Kept := Bench.kept_course acts
  have hbegins : ∀ m task, (s.perform m).2 = some task ↔ ∃ n, m = .run n ∧ Latest moves n task := by
    intro m task
    constructor
    · intro h
      obtain ⟨n, rfl⟩ := Session.exists_run_of_begins s h
      exact ⟨n, rfl, (Session.begins_iff timers hfew n task).mp h⟩
    · rintro ⟨n, rfl, hlatest⟩
      exact (Session.begins_iff timers hfew n task).mpr hlatest
  refine ⟨hbegins, fun n n' h h' => ?_, honce.sublist (start.begun_sublist moves),
    fun hdrop m => ?_, Session.isRunning_iff timers hfew, hkept.length_tasksOf_le,
    fun name a ha => hkept.othersOf_operated (Bench.operated_act ha)⟩
  · obtain ⟨task, htask⟩ := Option.ne_none_iff_exists'.mp h
    obtain ⟨task', htask'⟩ := Option.ne_none_iff_exists'.mp h'
    exact (((Session.begins_iff timers hfew n task).mp htask).unique
      ((Session.begins_iff timers hfew n' task').mp htask')).1
  · by_contra hbegin
    obtain ⟨task, htask⟩ := Option.ne_none_iff_exists'.mp hbegin
    obtain ⟨n, -, hlatest⟩ := (hbegins m task).mp htask
    exact hlatest.drop_not_mem hdrop

/-- A timer is started twice on a service that takes nothing back, and its first task comes
up all the same. -/
def restarted : List (Move (Leaky (Agenda (Wrapped String))) String) :=
  [.start (.ofSecs 5) "old", .start (.ofSecs 20) "new", .run 0]

/-- One timer has fired, and another one was started since. -/
def alongside : List (Act Bool String) :=
  [.start true (.ofSecs 1) "fired", .travel (.advance (.ofSecs 1)), .proceed, .finish, .proceed,
    .start false (.ofSecs 1) "waiting"]

/-- Only the second task begins, and the timer that fired takes nothing of the other's back. -/
theorem latest_start_alone_runs_restarted :
    restarted.countP Move.isUse < UInt64.size ∧ (restarted.filterMap Move.run?).Nodup ∧
      (((Session.opening ⟨{}⟩).after restarted).perform (.run 0)).2 ≠ some "old" ∧
      (((Session.opening ⟨{}⟩).after restarted).perform (.run 1)).2 = some "new" ∧
      (((({} : Bench Bool String).course alongside).act (.stop true)).othersOf true).length =
        1 := by
  have hfew : restarted.countP Move.isUse < UInt64.size := by decide
  have honce : (restarted.filterMap Move.run?).Nodup := by decide
  have hlatest : Latest restarted 1 "new" :=
    ⟨[.start (.ofSecs 5) "old"], .ofSecs 20, [.run 0], rfl, by simp, rfl,
      by simp [Move.isOperation]⟩
  obtain ⟨hbegins, hone, -, -, -, -, hothers⟩ :=
    latest_start_alone_runs ⟨{}⟩ restarted hfew honce alongside
  have hnew := (hbegins (.run 1) "new").mpr ⟨1, rfl, hlatest⟩
  refine ⟨hfew, honce, fun hold => ?_, hnew, ?_⟩
  · exact absurd (hone 0 1 (by simp [hold]) (by simp [hnew])) (by decide)
  · rw [hothers true (.stop true) rfl]
    rfl

end Cadence.OneShot
