import Cadence.Proofs.Agenda.Run
import Cadence.Proofs.Executor.Jobs

/-! # Agreement of the agenda and the executor

The same tasks, put off and taken back by the same moves, on an agenda and on an
executor. As long as deadlines are whole milliseconds that no clock is too short
for, and no two of those that wait are the same, the executor has no choice to
make: both start the same tasks at the same times, with as many left to wait.
-/

namespace Cadence

/-- Whether a span is a whole number of milliseconds. -/
def Span.Whole (d : Span) : Prop := d.nanos % 1000000 = 0

instance (d : Span) : Decidable d.Whole := inferInstanceAs (Decidable (_ = _))

/-- What both services know of a task that waits. -/
def Job.outline {τ : Type} (job : Job τ) : TaskId × Wait × τ := (job.id, job.wait, job.task)

def Entry.outline {τ : Type} (e : Entry τ) : TaskId × Wait × τ :=
  (e.id, .deadline e.key.deadline, e.task)

namespace Executor

variable {τ : Type}

/-! ## Moves and what is seen of them -/

/-- A move that both services know. -/
inductive Cue (τ : Type)
  | schedule (delay : Span) (task : τ)
  | cancel (id : TaskId)
  | advance (distance : Span)
  /-- The advance under way takes its next turn, where the executor may have a choice. -/
  | proceed (choice : Nat)
  /-- The task that runs has come to its end. -/
  | finish

namespace Cue

def onAgenda : Cue τ → Agenda.Move τ
  | .schedule delay task => .schedule delay task
  | .cancel id => .cancel id
  | .advance distance => .travel (.advance distance)
  | .proceed _ => .proceed
  | .finish => .finish

def onExecutor : Cue τ → Move τ
  | .schedule delay task => .schedule delay task
  | .cancel id => .cancel id
  | .advance distance => .advance distance
  | .proceed choice => .proceed choice
  | .finish => .finish

end Cue

/-- What a move leads to, on either side. -/
inductive Sight (τ : Type)
  | quiet
  | issued (id : TaskId)
  /-- A task starts; `logged` are the numbers that the log shows for it. -/
  | started (task : τ) (logged : List TaskId)
  | arrived
deriving DecidableEq

/-- The numbers of tasks in a log. -/
def logged (events : List Event) : List TaskId :=
  events.filterMap fun
    | .runningTask _ id => some id
    | _ => none

namespace Sight

def ofAgenda : Agenda.Signal τ → Sight τ
  | .quiet => .quiet
  | .scheduled id => .issued id
  | .started task events => .started task (logged events)
  | .arrived _ => .arrived

def ofExecutor : Signal τ → Sight τ
  | .quiet => .quiet
  | .issued id => .issued id
  | .started job => .started job.task (logged job.events)
  | .ended _ => .quiet
  | .arrived => .arrived

end Sight

/-- What is seen of a move and after it. -/
structure Sighting (τ : Type) where
  sight : Sight τ
  elapsed : Span
  pending : Nat
deriving DecidableEq

def playOnAgenda (a : Agenda.Session τ) (c : Cue τ) : Agenda.Session τ × Sighting τ :=
  let out := a.perform c.onAgenda
  (out.1, ⟨.ofAgenda out.2, out.1.agenda.elapsed, out.1.agenda.pending⟩)

def playOnExecutor (s : Session τ) (c : Cue τ) : Session τ × Sighting τ :=
  let out := s.perform c.onExecutor
  (out.1, ⟨.ofExecutor out.2, out.1.executor.elapsed, out.1.executor.tracked.length⟩)

/-- Everything that is seen of a run, move by move. -/
def chronicle {σ : Type} (step : σ → Cue τ → σ × Sighting τ) (s : σ) :
    List (Cue τ) → List (Sighting τ)
  | [] => []
  | c :: rest => (step s c).2 :: chronicle step (step s c).1 rest

/-! ## Runs on which both services agree -/

/-- Whether a delay is in whole milliseconds and ends while clocks can still show the time. -/
def Reckoned (now delay : Span) : Prop :=
  delay.Whole ∧ now.nanos + delay.nanos < Agenda.clockSecs * 1000000000

instance (now delay : Span) : Decidable (Reckoned now delay) :=
  inferInstanceAs (Decidable (_ ∧ _))

/-- Delays are reckoned, and tasks leave it to the caller outside to advance the time. -/
def Cue.Fits (a : Agenda.Session τ) : Cue τ → Prop
  | .schedule delay _ => Reckoned a.agenda.elapsed delay
  | .advance distance => a.frames = [] ∧ Reckoned a.agenda.elapsed distance
  | _ => True

instance (a : Agenda.Session τ) : (c : Cue τ) → Decidable (c.Fits a)
  | .schedule _ _ => inferInstanceAs (Decidable (Reckoned _ _))
  | .advance _ => inferInstanceAs (Decidable (_ ∧ _))
  | .cancel _ => .isTrue trivial
  | .proceed _ => .isTrue trivial
  | .finish => .isTrue trivial

/-- No two tasks wait for the same deadline. -/
def Apart (a : Agenda τ) : Prop := (a.queue.map (·.key.deadline)).Nodup

instance (a : Agenda τ) : Decidable (Apart a) := inferInstanceAs (Decidable (List.Nodup _))

/-- Throughout the run delays are reckoned and deadlines are apart. -/
def Suits (a : Agenda.Session τ) : List (Cue τ) → Prop
  | [] => True
  | c :: rest =>
      (c.Fits a ∧ Apart (a.perform c.onAgenda).1.agenda) ∧ Suits (a.perform c.onAgenda).1 rest

instance decidableSuits : (a : Agenda.Session τ) → (cues : List (Cue τ)) →
    Decidable (Suits a cues)
  | _, [] => .isTrue trivial
  | a, c :: rest =>
      have := decidableSuits (a.perform c.onAgenda).1 rest
      inferInstanceAs (Decidable (_ ∧ _))

/-! ## Deadlines of the executor -/

theorem whole_add {now delay : Span} (hnow : now.Whole) (h : Reckoned now delay) :
    (now + delay).nanos = now.nanos + delay.nanos ∧ (now + delay).Whole := by
  obtain ⟨hwhole, hlt⟩ := h
  have hsum : (now + delay).nanos = now.nanos + delay.nanos := by
    rw [Span.nanos_add]
    simp only [Agenda.clockSecs, Span.maxNanos] at hlt ⊢
    omega
  refine ⟨hsum, ?_⟩
  unfold Span.Whole at *
  omega

/-- Where nothing has to be rounded, deadlines are those of an agenda. -/
theorem deadlineAfter_eq {e : Executor τ} (hnow : e.elapsed.Whole) {delay : Span}
    (h : Reckoned e.elapsed delay) : e.deadlineAfter delay = e.elapsed + delay := by
  obtain ⟨hsum, hwhole⟩ := whole_add hnow h
  have hlt : e.elapsed.nanos + delay.nanos < 9223372036854775808000000000 := h.2
  have hround : roundUp (e.elapsed.nanos + delay.nanos) = e.elapsed.nanos + delay.nanos := by
    unfold Span.Whole at hwhole
    unfold roundUp
    omega
  unfold deadlineAfter
  dsimp only
  rw [if_pos hlt, hround]
  rfl

/-! ## The same tasks on both sides -/

theorem outline_eq {job : Job τ} {e : Entry τ} (h : job.outline = e.outline) :
    job.id = e.id ∧ job.wait = .deadline e.key.deadline ∧ job.task = e.task :=
  ⟨congrArg (·.1) h, congrArg (·.2.1) h, congrArg (·.2.2) h⟩

/-- A drive that ends at its own limit, a whole number of milliseconds that is not past. -/
structure Aims (a : Agenda τ) (d : Agenda.Drive) : Prop where
  settle : d.settle = some d.limit
  reached : a.elapsed ≤ d.limit
  whole : d.limit.Whole

/-- Who is in control: the caller outside, an advance, or a task that it started. -/
inductive Control (a : Agenda.Session τ) (s : Session τ) : Prop
  | rests (frames : a.frames = []) (target : s.target = none) (running : s.running = none)
  | travels (d : Agenda.Drive) (aims : Aims a.agenda d) (frames : a.frames = [.travelling d])
      (target : s.target = some d.limit) (running : s.running = none)
  | works (d : Agenda.Drive) (aims : Aims a.agenda d) (job : Job τ)
      (frames : a.frames = [.working, .travelling d]) (target : s.target = some d.limit)
      (running : s.running = some job) (gone : job.id ∉ s.executor.tracked)

/-- The executor shows what the agenda shows. -/
structure Mirrors (a : Agenda.Session τ) (s : Session τ) : Prop where
  agenda : a.agenda.Sound
  executor : s.Sound
  elapsed : s.executor.elapsed = a.agenda.elapsed
  nextId : s.executor.nextId = a.agenda.nextId
  whole : a.agenda.elapsed.Whole
  due_whole : ∀ e ∈ a.agenda.queue, e.key.deadline.Whole
  apart : Apart a.agenda
  tasks : (s.executor.sweep.jobs.map Job.outline).Perm (a.agenda.queue.map Entry.outline)
  books : s.executor.tracked.Perm (a.agenda.queue.map Entry.id)
  control : Control a s

/-- A move is seen alike on both sides, and what is the same stays the same. -/
def Alike (a : Agenda.Session τ) (s : Session τ) (c : Cue τ) : Prop :=
  Sight.ofExecutor (s.perform c.onExecutor).2 = .ofAgenda (a.perform c.onAgenda).2 ∧
    Mirrors (a.perform c.onAgenda).1 (s.perform c.onExecutor).1

namespace Mirrors

variable {a : Agenda.Session τ} {s : Session τ}

theorem fresh : Mirrors (Agenda.Session.fresh : Agenda.Session τ) Session.fresh where
  agenda := Agenda.sound_empty
  executor := Session.sound_fresh
  elapsed := rfl
  nextId := rfl
  whole := rfl
  due_whole := nofun
  apart := List.nodup_nil
  tasks := List.Perm.refl _
  books := List.Perm.refl _
  control := .rests rfl rfl rfl

theorem pending (h : Mirrors a s) : s.executor.tracked.length = a.agenda.pending := by
  rw [h.books.length_eq, List.length_map]
  rfl

/-- Every task that may still start stands in the queue. -/
theorem exists_entry (h : Mirrors a s) {job : Job τ} (hjob : job ∈ s.executor.sweep.jobs) :
    ∃ e ∈ a.agenda.queue, e.outline = job.outline :=
  List.mem_map.mp (h.tasks.subset (List.mem_map_of_mem hjob))

theorem exists_job (h : Mirrors a s) {e : Entry τ} (he : e ∈ a.agenda.queue) :
    ∃ job ∈ s.executor.sweep.jobs, job.outline = e.outline :=
  List.mem_map.mp (h.tasks.symm.subset (List.mem_map_of_mem he))

theorem sweep_nodup (h : Mirrors a s) : (s.executor.sweep.jobs.map Job.id).Nodup :=
  h.executor.jobs_nodup.sublist (List.filter_sublist.map Job.id)

/-- The first task of the queue is the first for the executor. -/
theorem first (h : Mirrors a s) {e : Entry τ} {rest : List (Entry τ)}
    (hqueue : a.agenda.queue = e :: rest) {job : Job τ} (hjob : job ∈ s.executor.sweep.jobs)
    (houtline : job.outline = e.outline) :
    First s.executor.sweep.jobs job e.key.deadline where
  mem := hjob
  wait := (outline_eq houtline).2.1
  others other hother hne := by
    obtain ⟨f, hf, hwaits⟩ := h.exists_entry hother
    have hfe : f ≠ e := by
      rintro rfl
      have hid : other.id = job.id := congrArg Prod.fst (hwaits.symm.trans houtline.symm)
      exact hne (List.inj_on_of_nodup_map h.sweep_nodup hother hjob hid)
    refine ⟨f.key.deadline, (outline_eq hwaits.symm).2.1, ?_⟩
    have hrest : f ∈ rest := (List.mem_cons.mp (hqueue ▸ hf)).resolve_left hfe
    have hascending := h.agenda.ascending
    have hapart := h.apart
    rw [Apart, hqueue] at hapart
    rw [hqueue] at hascending
    -- the queue is in order, and no other deadline is the same as the first one
    have hle := Key.deadline_le_of_lt ((List.pairwise_cons.mp hascending).1 f hrest)
    have hdue : e.key.deadline ≠ f.key.deadline := fun heq =>
      (List.nodup_cons.mp hapart).1 (List.mem_map.mpr ⟨f, hrest, heq.symm⟩)
    exact Nat.lt_of_le_of_ne hle fun hnanos => hdue (Span.ext hnanos)

/-! ## One move -/

theorem schedule (h : Mirrors a s) {delay : Span} (hfits : Reckoned a.agenda.elapsed delay)
    (task : τ) (hapart : Apart (a.agenda.schedule delay task).2) :
    Mirrors { a with agenda := (a.agenda.schedule delay task).2 }
      { s with executor := (s.executor.schedule delay task).2 } where
  agenda := h.agenda.schedule delay task
  executor := h.executor.track _ task
  elapsed := h.elapsed
  nextId := congrArg (· + 1) h.nextId
  whole := h.whole
  due_whole e he := by
    rcases Agenda.mem_schedule.mp he with rfl | he
    · exact (whole_add h.whole hfits).2
    · exact h.due_whole e he
  apart := hapart
  tasks := by
    have hdeadline : s.executor.deadlineAfter delay = a.agenda.elapsed + delay := by
      rw [← h.elapsed] at hfits ⊢
      exact deadlineAfter_eq (h.elapsed ▸ h.whole) hfits
    have hnew : (s.executor.schedule delay task).2.sweep.jobs =
        s.executor.sweep.jobs ++ [{
          id := a.agenda.nextId, wait := .deadline (a.agenda.elapsed + delay), task }] := by
      rw [← hdeadline, ← h.nextId]
      exact List.filter_append ..
    rw [hnew, List.map_append]
    refine (List.perm_append_singleton _ _).trans ((h.tasks.cons _).trans ?_)
    exact ((a.agenda.schedule_queue_perm delay task).map Entry.outline).symm
  books := by
    show (s.executor.tracked ++ [s.executor.nextId]).Perm _
    rw [h.nextId]
    refine (List.perm_append_singleton _ _).trans ((h.books.cons _).trans ?_)
    exact ((a.agenda.schedule_queue_perm delay task).map Entry.id).symm
  control := by
    cases h.control with
    | rests frames target running => exact .rests frames target running
    | travels d aims frames target running =>
        exact .travels d ⟨aims.settle, aims.reached, aims.whole⟩ frames target running
    | works d aims job frames target running gone =>
        refine .works d ⟨aims.settle, aims.reached, aims.whole⟩ job frames target running ?_
        have hne : job.id ≠ s.executor.nextId := Nat.ne_of_lt (h.executor.running_lt running)
        exact fun hmem => (List.mem_append.mp hmem).elim gone fun hmem =>
          hne (List.mem_singleton.mp hmem)

theorem cancel (h : Mirrors a s) (id : TaskId) :
    Mirrors { a with agenda := a.agenda.cancel id }
      { s with executor := s.executor.cancel id } where
  agenda := h.agenda.cancel id
  executor := h.executor.cancel id
  elapsed := by simpa using h.elapsed
  nextId := by simpa using h.nextId
  whole := by simpa using h.whole
  due_whole e he := h.due_whole e (h.agenda.mem_cancel.mp he).1
  apart := by
    rw [Apart, h.agenda.cancel_queue]
    exact h.apart.sublist (List.filter_sublist.map _)
  tasks := by
    rw [h.executor.cancel_sweep, h.agenda.cancel_queue]
    have hperm := h.tasks.filter (fun outline => outline.1 ≠ id)
    rwa [List.filter_map, List.filter_map] at hperm
  books := by
    have htracked : s.executor.tracked.erase id = s.executor.tracked.filter (· ≠ id) :=
      (h.executor.tracked_nodup.erase_eq_filter id).trans
        (List.filter_congr fun other _ => by by_cases hother : other = id <;> simp [hother])
    have hperm := h.books.filter (· ≠ id)
    rw [List.filter_map] at hperm
    rw [cancel_tracked, htracked, h.agenda.cancel_queue]
    exact hperm
  control := by
    have haims : ∀ d, Aims a.agenda d → Aims (a.agenda.cancel id) d := fun d aims =>
      ⟨aims.settle, by simpa using aims.reached, aims.whole⟩
    cases h.control with
    | rests frames target running => exact .rests frames target running
    | travels d aims frames target running =>
        exact .travels d (haims d aims) frames target running
    | works d aims job frames target running gone =>
        refine .works d (haims d aims) job frames target running ?_
        rw [cancel_tracked]
        exact fun hmem => gone (List.mem_of_mem_erase hmem)

theorem advance (h : Mirrors a s) {distance : Span} (hframes : a.frames = [])
    (hfits : Reckoned a.agenda.elapsed distance) :
    Mirrors { a with frames := .travelling (a.agenda.advance distance) :: a.frames }
      { s with target := s.target.or (some (s.executor.deadlineAfter distance)) } := by
  have htarget : s.executor.deadlineAfter distance = a.agenda.elapsed + distance := by
    rw [← h.elapsed] at hfits ⊢
    exact deadlineAfter_eq (h.elapsed ▸ h.whole) hfits
  have haims : Aims a.agenda (a.agenda.advance distance) :=
    ⟨rfl, Span.le_add_right _ _, (whole_add h.whole hfits).2⟩
  refine { h with
    executor := h.executor.shrink rfl (List.Subperm.refl _) (List.Sublist.refl _) h.executor.live
    control := ?_ }
  cases h.control with
  | rests frames target running =>
      refine .travels _ haims (by rw [frames]) ?_ running
      rw [target, htarget]
      rfl
  | travels d aims frames => cases frames.symm.trans hframes
  | works d aims job frames => cases frames.symm.trans hframes

/-- A move that both sides ignore is seen alike. -/
theorem ignored (h : Mirrors a s) {c : Cue τ} (hagenda : a.perform c.onAgenda = (a, .quiet))
    (hexecutor : s.perform c.onExecutor = (s, .quiet)) : Alike a s c := by
  unfold Alike
  rw [hagenda, hexecutor]
  exact ⟨rfl, h⟩

theorem finish (h : Mirrors a s) : Alike a s .finish := by
  cases h.control with
  | rests frames target running =>
      exact h.ignored (by simp only [Cue.onAgenda, Agenda.Session.perform, frames])
        (by simp only [Cue.onExecutor, Session.perform, Session.finish, running])
  | travels d aims frames target running =>
      exact h.ignored (by simp only [Cue.onAgenda, Agenda.Session.perform, frames])
        (by simp only [Cue.onExecutor, Session.perform, Session.finish, running])
  | works d aims job frames target running gone =>
      have hagenda : a.perform .finish = ({ a with frames := [.travelling d] }, .quiet) := by
        simp only [Agenda.Session.perform, frames]
      -- a task that starts has left the books, so there is nothing to retire
      have hretire : s.executor.retire job.id = s.executor := by
        unfold retire
        rw [List.erase_of_not_mem gone]
      have hexecutor : s.perform .finish = ({ s with running := none }, .ended job.id) := by
        simp only [Session.perform, Session.finish, running, hretire]
      have hsound := h.executor.perform .finish
      rw [hexecutor] at hsound
      show Sight.ofExecutor (s.perform .finish).2 = .ofAgenda (a.perform .finish).2 ∧
        Mirrors (a.perform .finish).1 (s.perform .finish).1
      rw [hagenda, hexecutor]
      exact ⟨rfl, { h with executor := hsound, control := .travels d aims rfl target rfl }⟩

/-- The first task of the queue starts, if it is due by the target of the advance. -/
theorem starting (h : Mirrors a s) {d : Agenda.Drive} (aims : Aims a.agenda d)
    (target : s.target = some d.limit) (running : s.running = none) {e : Entry τ} {b : Agenda τ}
    (due : a.agenda.popDue d.limit = some (e, b)) :
    ∃ job, job.outline = e.outline ∧
      (∀ choice, s.perform (.proceed choice) = (s.starting job e.key.deadline, .started job)) ∧
      Mirrors ⟨b.started e, [.working, .travelling { d with ran := d.ran + 1 }]⟩
        (s.starting job e.key.deadline) := by
  have hnow := h.agenda.started_elapsed due
  have hsound := h.agenda.started due
  obtain ⟨rest, hqueue, hdue, rfl⟩ := Agenda.popDue_eq_some_iff.mp due
  have he : e ∈ a.agenda.queue := hqueue ▸ List.mem_cons_self
  obtain ⟨job, hjob, houtline⟩ := h.exists_job he
  obtain ⟨hid, hwait, _⟩ := outline_eq houtline
  have hseek := (h.first hqueue hjob houtline).seek_eq (List.Nodup.of_map _ h.sweep_nodup)
    (h.elapsed ▸ h.agenda.not_overdue e he) hdue
  have htracked : (s.starting job e.key.deadline).executor.tracked =
      s.executor.tracked.erase job.id := by
    rw [Session.starting_tracked, Job.isSpawned_of_deadline hwait]
    rfl
  refine ⟨job, houtline, fun choice => Session.perform_of_seek_some target running (hseek choice),
    { agenda := hsound
      executor := h.executor.starting running hjob _
      elapsed := hnow.symm
      nextId := h.nextId
      whole := hnow ▸ h.due_whole e he
      due_whole := fun f hf => h.due_whole f (hqueue ▸ List.mem_cons_of_mem e hf)
      apart := ?_
      tasks := ?_
      books := ?_
      control := ?_ }⟩
  · have hapart := h.apart
    rw [Apart, hqueue] at hapart
    exact (List.nodup_cons.mp hapart).2
  · -- the same task stands in front on both sides, and both take it away
    have htasks := ((h.executor.perm_starting hjob e.key.deadline).map Job.outline).trans h.tasks
    rw [hqueue, List.map_cons, List.map_cons, houtline] at htasks
    rw [h.executor.starting_sweep hjob]
    exact htasks.cons_inv
  · have hbooks := h.books.erase job.id
    rw [hqueue, List.map_cons, hid, List.erase_cons_head, ← hid] at hbooks
    exact htracked ▸ hbooks
  · refine .works { d with ran := d.ran + 1 } ⟨aims.settle, ?_, aims.whole⟩ job rfl target rfl ?_
    · exact hnow ▸ hdue
    · rw [htracked]
      exact fun hin => (h.executor.tracked_nodup.mem_erase_iff.mp hin).1 rfl

/-- With nothing due by its target the advance ends there. -/
theorem arriving (h : Mirrors a s) {d : Agenda.Drive} (aims : Aims a.agenda d)
    (target : s.target = some d.limit) (running : s.running = none)
    (idle : a.agenda.popDue d.limit = none) :
    (∀ choice, s.perform (.proceed choice) = (s.arriving d.limit, .arrived)) ∧
      Mirrors ⟨a.agenda.settled d, []⟩ (s.arriving d.limit) := by
  have hidle : ∀ job ∈ s.executor.sweep.jobs, ∃ due, job.wait = .deadline due ∧ d.limit < due := by
    intro job hjob
    obtain ⟨e, he, houtline⟩ := h.exists_entry hjob
    exact ⟨e.key.deadline, (outline_eq houtline.symm).2.1, h.agenda.lt_of_popDue_eq_none idle he⟩
  have hseek := seek_idle hidle (h.elapsed ▸ aims.reached)
  have haimed : d.Aimed := fun time htime =>
    (Option.some.inj (aims.settle.symm.trans htime)).symm
  have hnow : (a.agenda.settled d).elapsed = d.limit := by simp [Agenda.settled, aims.settle]
  have hlive : s.executor.sweep.sweep.jobs = s.executor.sweep.jobs := by simp [sweep]
  refine ⟨fun choice => Session.perform_of_seek_none target running (hseek choice),
    h.agenda.settled haimed idle, h.executor.arriving _, hnow.symm, h.nextId, hnow ▸ aims.whole,
    h.due_whole, h.apart, ?_, h.books, .rests rfl rfl running⟩
  exact hlive.symm ▸ h.tasks

/-- A turn of the advance under way starts the same task on both sides, or ends it on both. -/
theorem proceed (h : Mirrors a s) (choice : Nat) : Alike a s (.proceed choice) := by
  cases h.control with
  | rests frames target running =>
      exact h.ignored
        (by simp only [Cue.onAgenda, Agenda.Session.perform, Agenda.Session.proceed, frames])
        (by simp only [Cue.onExecutor, Session.perform, Session.proceed, target])
  | works d aims job frames target running gone =>
      exact h.ignored
        (by simp only [Cue.onAgenda, Agenda.Session.perform, Agenda.Session.proceed, frames])
        (by simp only [Cue.onExecutor, Session.perform, Session.proceed, target, running])
  | travels d aims frames target running =>
      show Sight.ofExecutor (s.perform (.proceed choice)).2 = .ofAgenda (a.perform .proceed).2 ∧
        Mirrors (a.perform .proceed).1 (s.perform (.proceed choice)).1
      cases a.proceeds with
      | starts top rest e b before due out start =>
          cases before.symm.trans frames
          obtain ⟨job, houtline, hperform, hmirrors⟩ := h.starting aims target running due
          obtain ⟨hid, hwait, htask⟩ := outline_eq houtline
          rw [out, hperform]
          refine ⟨?_, hmirrors⟩
          simp only [Sight.ofExecutor, Sight.ofAgenda, Job.events, hwait, htask, hid]
          rfl
      | returns top rest before idle out start =>
          cases before.symm.trans frames
          obtain ⟨hperform, hmirrors⟩ := h.arriving aims target running idle
          rw [out, hperform]
          exact ⟨rfl, hmirrors⟩
      | rests still out => exact absurd frames (still d [])

/-- Every move is seen alike on both sides. -/
theorem perform (h : Mirrors a s) {c : Cue τ} (hfits : c.Fits a)
    (hapart : Apart (a.perform c.onAgenda).1.agenda) : Alike a s c := by
  cases c with
  | schedule delay task => exact ⟨congrArg Sight.issued h.nextId, h.schedule hfits task hapart⟩
  | cancel id => exact ⟨rfl, h.cancel id⟩
  | advance distance => exact ⟨rfl, h.advance hfits.1 hfits.2⟩
  | proceed choice => exact h.proceed choice
  | finish => exact h.finish

theorem chronicle_eq (h : Mirrors a s) {cues : List (Cue τ)} (hsuits : Suits a cues) :
    chronicle playOnExecutor s cues = chronicle playOnAgenda a cues := by
  induction cues generalizing a s with
  | nil => rfl
  | cons c rest ih =>
      obtain ⟨⟨hfits, hapart⟩, hrest⟩ := hsuits
      obtain ⟨hsight, hmirrors⟩ := h.perform hfits hapart
      have hsighting : (playOnExecutor s c).2 = (playOnAgenda a c).2 := by
        unfold playOnExecutor playOnAgenda
        dsimp only
        rw [hsight, hmirrors.elapsed, hmirrors.pending]
      show (playOnExecutor s c).2 :: _ = (playOnAgenda a c).2 :: _
      rw [hsighting]
      exact congrArg _ (ih hmirrors hrest)

end Mirrors

/-- Whatever is put off, taken back and advanced, outside and from within the tasks that run:
as long as delays are whole milliseconds, no deadline reaches the end of clocks, and no two
tasks that wait share a deadline, an executor and an agenda hand out the same numbers, start
the same tasks at the same times in the same order, and have as many pending after every move,
whichever choices the executor's loop makes. -/
theorem services_agree (cues : List (Cue τ)) (hsuits : Suits Agenda.Session.fresh cues) :
    chronicle playOnExecutor Session.fresh cues =
      chronicle playOnAgenda Agenda.Session.fresh cues :=
  Mirrors.fresh.chronicle_eq hsuits

/-- The first task that runs takes itself back, which has no effect, and then the last one of
three, and puts a new one off for the time that it is. -/
def meddling : List (Cue String) :=
  [.schedule (.ofSecs 2) "late", .schedule (.ofSecs 1) "first", .schedule (.ofSecs 3) "last",
    .advance (.ofSecs 5), .proceed 1, .cancel 1, .cancel 2, .schedule .zero "at once", .finish,
    .proceed 2, .finish, .proceed 0, .finish, .proceed 0]

/-- Both services start the first task after a second, the new one at once, and the one that
is left after another second. -/
theorem services_agree_meddling :
    (chronicle playOnExecutor Session.fresh meddling).filterMap (fun seen =>
      match seen.sight with
      | .started task _ => some (task, seen.elapsed.secs, seen.pending)
      | _ => none) = [("first", 1, 2), ("at once", 1, 1), ("late", 2, 0)] := by
  rw [services_agree meddling (by decide +kernel)]
  decide +kernel

end Executor

end Cadence
