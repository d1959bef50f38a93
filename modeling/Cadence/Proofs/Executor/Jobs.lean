import Cadence.Executor.Session
import Cadence.Proofs.Executor.Choice
import Cadence.Proofs.Labelled
import Mathlib.Data.List.Basic

/-! # The tasks of an executor

A task is known by its number from the time it is put off until it has ended,
also while it runs. Numbers are never shared, and a task that may still start
is in the books. Every move keeps this, whichever ready task the loop chooses.
-/

namespace Cadence

variable {τ : Type}

namespace Job

/-! ## What stays of a task -/

/-- Whether a task waits for signals and not for a deadline. -/
def isSpawned (job : Job τ) : Bool :=
  match job.wait with
  | .deadline _ => false
  | .signal _ => true

/-- What a task keeps as long as it exists: its number, and whether it was spawned. -/
def sign (job : Job τ) : TaskId × Bool := (job.id, job.isSpawned)

@[simp] theorem raise_sign (job : Job τ) : job.raise.sign = job.sign := by
  unfold raise sign isSpawned
  cases hwait : job.wait <;> simp [hwait]

@[simp] theorem raise_cancelled (job : Job τ) : job.raise.cancelled = job.cancelled := by
  unfold raise
  cases job.wait <;> rfl

theorem raise_id (job : Job τ) : job.raise.id = job.id :=
  congrArg Prod.fst job.raise_sign

theorem isSpawned_of_deadline {job : Job τ} {time : Span} (h : job.wait = .deadline time) :
    job.isSpawned = false := by
  simp [isSpawned, h]

end Job

namespace Executor

/-- The signs of the tasks that wait. -/
def signs (e : Executor τ) : List (TaskId × Bool) := e.jobs.map Job.sign

/-! ## Cancelling -/

@[simp] theorem cancel_nextId (e : Executor τ) (id : TaskId) :
    (e.cancel id).nextId = e.nextId := by
  unfold cancel
  split <;> rfl

@[simp] theorem cancel_elapsed (e : Executor τ) (id : TaskId) :
    (e.cancel id).elapsed = e.elapsed := by
  unfold cancel
  split <;> rfl

theorem cancel_tracked (e : Executor τ) (id : TaskId) :
    (e.cancel id).tracked = e.tracked.erase id := by
  unfold cancel
  split
  next => rfl
  next hid => exact (List.erase_of_not_mem hid).symm

@[simp] theorem cancel_signs (e : Executor τ) (id : TaskId) : (e.cancel id).signs = e.signs := by
  unfold cancel
  split
  next =>
    unfold signs
    rw [List.map_map]
    apply List.map_congr_left
    intro job _
    rw [Function.comp_apply]
    split <;> rfl
  next => rfl

/-- A cancelled task is thrown away at the next turn, and no other is. -/
theorem cancel_sweep {e : Executor τ} {id : TaskId} (hid : id ∈ e.tracked) :
    (e.cancel id).sweep.jobs = e.sweep.jobs.filter (·.id ≠ id) := by
  unfold cancel
  rw [if_pos hid]
  show (e.jobs.map _).filter _ = (e.jobs.filter _).filter _
  rw [List.filter_filter]
  induction e.jobs with
  | nil => rfl
  | cons job rest ih =>
      rw [List.map_cons, List.filter_cons, List.filter_cons, ih]
      by_cases hjob : job.id = id <;> simp [hjob]

/-- Whatever cancelling one task keeps, cancelling all of them keeps. -/
theorem cancelAll_induction {P : Executor τ → Prop} (hstep : ∀ e id, P e → P (e.cancel id))
    {e : Executor τ} (h : P e) : P e.cancelAll := by
  have hfold : ∀ ids f, P f → P (List.foldl cancel f ids) := by
    intro ids
    induction ids with
    | nil => exact fun _ hf => hf
    | cons id rest ih => exact fun f hf => ih _ (hstep f id hf)
  exact hfold e.tracked e h

/-- Cancelling all tasks leaves nothing in the books. -/
theorem cancelAll_tracked (e : Executor τ) : e.cancelAll.tracked = [] := by
  have hfold : ∀ (ids : List TaskId) (f : Executor τ), f.tracked = ids →
      (List.foldl cancel f ids).tracked = [] := by
    intro ids
    induction ids with
    | nil => exact fun _ hf => hf
    | cons id rest ih =>
        intro f hf
        refine ih (f.cancel id) ?_
        rw [cancel_tracked, hf, List.erase_cons_head]
  exact hfold e.tracked e rfl

@[simp] theorem cancelAll_nextId (e : Executor τ) : e.cancelAll.nextId = e.nextId :=
  cancelAll_induction (P := fun f => f.nextId = e.nextId)
    (fun f id h => (f.cancel_nextId id).trans h) rfl

@[simp] theorem cancelAll_signs (e : Executor τ) : e.cancelAll.signs = e.signs :=
  cancelAll_induction (P := fun f => f.signs = e.signs) (fun f id h => (f.cancel_signs id).trans h)
    rfl

@[simp] theorem raise_signs (e : Executor τ) (id : TaskId) : (e.raise id).signs = e.signs := by
  unfold raise signs
  rw [List.map_map]
  apply List.map_congr_left
  intro job _
  rw [Function.comp_apply]
  split
  · exact job.raise_sign
  · rfl

theorem mem_sweep {e : Executor τ} {job : Job τ} :
    job ∈ e.sweep.jobs ↔ job ∈ e.jobs ∧ job.cancelled = false := by
  simp [sweep]

theorem sweep_signs (e : Executor τ) : e.sweep.signs.Sublist e.signs :=
  List.filter_sublist.map Job.sign

/-- The executor at this time, once the tasks that were cancelled have been thrown away. -/
def moved (e : Executor τ) (time : Span) : Executor τ := { e.sweep with elapsed := time }

theorem exists_moved (e : Executor τ) (target : Span) (choice : Nat) :
    ∃ time, (e.sweep.seek target choice).1 = e.moved time :=
  e.sweep.exists_seek_eq target choice

/-! ## Turns of a session -/

namespace Session

/-- The session once a task has been taken out to run at this time. -/
def starting (s : Session τ) (job : Job τ) (time : Span) : Session τ :=
  { s with executor := (s.executor.moved time).begin job, running := some job }

/-- The session once the advance under way has come to its end at this time. -/
def arriving (s : Session τ) (time : Span) : Session τ :=
  { s with executor := s.executor.moved time, target := none }

theorem perform_of_seek_some {s : Session τ} {target time : Span} {choice : Nat} {job : Job τ}
    (htarget : s.target = some target) (hfree : s.running = none)
    (hseek : s.executor.sweep.seek target choice = (s.executor.moved time, some job)) :
    s.perform (.proceed choice) = (s.starting job time, .started job) := by
  simp only [perform, proceed, starting, htarget, hfree, hseek]

theorem perform_of_seek_none {s : Session τ} {target time : Span} {choice : Nat}
    (htarget : s.target = some target) (hfree : s.running = none)
    (hseek : s.executor.sweep.seek target choice = (s.executor.moved time, none)) :
    s.perform (.proceed choice) = (s.arriving time, .arrived) := by
  simp only [perform, proceed, arriving, htarget, hfree, hseek]

/-- What comes of a turn: a task starts, the advance arrives, or there is no turn to take. -/
inductive Proceeds (s : Session τ) (choice : Nat) : Prop
  | starts (target time : Span) (job : Job τ) (before : s.target = some target)
      (free : s.running = none) (found : job ∈ s.executor.sweep.jobs)
      (out : s.perform (.proceed choice) = (s.starting job time, .started job))
  | arrives (target time : Span) (before : s.target = some target) (free : s.running = none)
      (out : s.perform (.proceed choice) = (s.arriving time, .arrived))
  | rests (still : s.target = none ∨ s.running ≠ none)
      (out : s.perform (.proceed choice) = (s, .quiet))

theorem proceeds (s : Session τ) (choice : Nat) : Proceeds s choice := by
  obtain ⟨e, target, running⟩ := s
  match target, running with
  | none, _ => exact .rests (.inl rfl) rfl
  | some _, some _ => exact .rests (.inr nofun) rfl
  | some target, none =>
      obtain ⟨time, htime⟩ := e.exists_moved target choice
      cases hjob : (e.sweep.seek target choice).2 with
      | none =>
          have hseek : e.sweep.seek target choice = (e.moved time, none) := Prod.ext htime hjob
          exact .arrives target time rfl rfl (perform_of_seek_none rfl rfl hseek)
      | some job =>
          have hseek : e.sweep.seek target choice = (e.moved time, some job) :=
            Prod.ext htime hjob
          exact .starts target time job rfl rfl (mem_of_seek hjob)
            (perform_of_seek_some rfl rfl hseek)

/-- A turn of a timeline is a turn of the session whose last task has ended, with the first
choice. -/
theorem turn_eq (e : Executor τ) (d : Drive) :
    e.turn d =
      match ({ executor := e.afterRun d, target := some d.target } : Session τ).proceed 0 with
      | (s, .started job) =>
          .run job.task job.events s.executor { d with running := s.running.map Job.id }
      | (s, _) => .over .arrived s.executor := by
  unfold turn proceed
  dsimp only
  split <;> simp_all

/-! ## Soundness -/

/-- The signs of all tasks that have not ended, the one that runs in front. -/
def signs (s : Session τ) : List (TaskId × Bool) :=
  s.running.toList.map Job.sign ++ s.executor.signs

/-- What holds throughout every run. -/
structure Sound (s : Session τ) : Prop where
  tracked_nodup : s.executor.tracked.Nodup
  tracked_lt : ∀ id ∈ s.executor.tracked, id < s.executor.nextId
  ids_nodup : (s.signs.map Prod.fst).Nodup
  id_lt : ∀ sign ∈ s.signs, sign.1 < s.executor.nextId
  live : ∀ job ∈ s.executor.jobs, job.cancelled = false → job.id ∈ s.executor.tracked

/-- A session at the beginning. -/
def fresh : Session τ := {}

theorem sound_fresh : (fresh : Session τ).Sound where
  tracked_nodup := List.nodup_nil
  tracked_lt := nofun
  ids_nodup := List.nodup_nil
  id_lt := nofun
  live := nofun

theorem signs_of_running {s : Session τ} {job : Job τ} (h : s.running = some job) :
    s.signs = job.sign :: s.executor.signs := by
  simp [signs, h]

theorem signs_of_free {s : Session τ} (h : s.running = none) : s.signs = s.executor.signs := by
  simp [signs, h]

theorem Sound.running_lt {s : Session τ} (h : s.Sound) {job : Job τ} (hrun : s.running = some job) :
    job.id < s.executor.nextId :=
  h.id_lt job.sign (by rw [signs_of_running hrun]; exact List.mem_cons_self)

/-- The task that runs is not among those that wait. -/
theorem Sound.running_apart {s : Session τ} (h : s.Sound) {job other : Job τ}
    (hrun : s.running = some job) (hother : other ∈ s.executor.jobs) : other.id ≠ job.id := by
  have hids := h.ids_nodup
  rw [signs_of_running hrun] at hids
  intro heq
  refine (List.nodup_cons.mp hids).1 ?_
  show job.id ∈ _
  rw [← heq]
  exact List.mem_map.mpr ⟨other.sign, List.mem_map_of_mem hother, rfl⟩

theorem Sound.jobs_nodup {s : Session τ} (h : s.Sound) :
    (s.executor.jobs.map Job.id).Nodup := by
  have hids := h.ids_nodup
  rw [signs, List.map_append] at hids
  have hjobs := (List.nodup_append.mp hids).2.1
  rwa [Executor.signs, List.map_map] at hjobs

/-- Soundness is kept where no task is added and the books still have all tasks that may
start. -/
theorem Sound.shrink {s t : Session τ} (h : s.Sound)
    (hnext : t.executor.nextId = s.executor.nextId) (hsigns : t.signs.Subperm s.signs)
    (htracked : t.executor.tracked.Sublist s.executor.tracked)
    (hlive : ∀ job ∈ t.executor.jobs, job.cancelled = false → job.id ∈ t.executor.tracked) :
    t.Sound where
  tracked_nodup := h.tracked_nodup.sublist htracked
  tracked_lt id hid := hnext ▸ h.tracked_lt id (htracked.subset hid)
  ids_nodup := by
    obtain ⟨between, hperm, hsub⟩ := hsigns
    exact (hperm.map Prod.fst).nodup_iff.mp (h.ids_nodup.sublist (hsub.map Prod.fst))
  id_lt sign hsign := hnext ▸ h.id_lt sign (hsigns.subset hsign)
  live := hlive

theorem signs_track (s : Session τ) (wait : Wait) (task : τ) :
    signs { s with executor := (s.executor.track wait task).2 } =
      s.signs ++ [Job.sign { id := s.executor.nextId, wait, task }] := by
  simp [signs, Executor.signs, track]

theorem Sound.track {s : Session τ} (h : s.Sound) (wait : Wait) (task : τ) :
    Sound { s with executor := (s.executor.track wait task).2 } where
  tracked_nodup := by
    refine List.nodup_append.mpr ⟨h.tracked_nodup, List.nodup_singleton _, ?_⟩
    intro id hid new hnew heq
    rw [List.mem_singleton.mp hnew] at heq
    exact Nat.lt_irrefl _ (heq ▸ h.tracked_lt id hid)
  tracked_lt id hid := by
    rcases List.mem_append.mp hid with hid | hid
    · exact Nat.lt_succ_of_lt (h.tracked_lt id hid)
    · rw [List.mem_singleton.mp hid]
      exact Nat.lt_succ_self _
  ids_nodup := by
    rw [signs_track, List.map_append]
    refine List.nodup_append.mpr ⟨h.ids_nodup, List.nodup_singleton _, ?_⟩
    intro id hid new hnew heq
    obtain ⟨sign, hsign, rfl⟩ := List.mem_map.mp hid
    rw [List.mem_singleton.mp hnew] at heq
    exact Nat.lt_irrefl _ (heq ▸ h.id_lt sign hsign)
  id_lt sign hsign := by
    rw [signs_track] at hsign
    rcases List.mem_append.mp hsign with hsign | hsign
    · exact Nat.lt_succ_of_lt (h.id_lt sign hsign)
    · rw [List.mem_singleton.mp hsign]
      exact Nat.lt_succ_self _
  live job hjob hlive := by
    rcases List.mem_append.mp hjob with hjob | hjob
    · exact List.mem_append_left _ (h.live job hjob hlive)
    · rw [List.mem_singleton.mp hjob]
      exact List.mem_append_right _ List.mem_cons_self

theorem Sound.cancel_sweep {s : Session τ} (h : s.Sound) (id : TaskId) :
    (s.executor.cancel id).sweep.jobs = s.executor.sweep.jobs.filter (·.id ≠ id) := by
  by_cases hid : id ∈ s.executor.tracked
  · exact Executor.cancel_sweep hid
  · have hsame : s.executor.cancel id = s.executor := if_neg hid
    rw [hsame]
    refine (List.filter_eq_self.mpr fun job hjob => ?_).symm
    obtain ⟨hmem, hlive⟩ := mem_sweep.mp hjob
    have hne : job.id ≠ id := fun heq => hid (heq ▸ h.live job hmem hlive)
    simpa using hne

theorem Sound.cancel {s : Session τ} (h : s.Sound) (id : TaskId) :
    Sound { s with executor := s.executor.cancel id } := by
  refine h.shrink (cancel_nextId _ _) ?_ ?_ fun job hjob hlive => ?_
  · simp only [signs, cancel_signs]
    exact List.Subperm.refl _
  · rw [cancel_tracked]
    exact List.erase_sublist
  · have hswept := mem_sweep.mpr ⟨hjob, hlive⟩
    rw [h.cancel_sweep, List.mem_filter] at hswept
    have hne : job.id ≠ id := by simpa using hswept.2
    rw [cancel_tracked]
    exact (List.mem_erase_of_ne hne).mpr (h.live job (mem_sweep.mp hswept.1).1 hlive)

theorem Sound.cancelAll {s : Session τ} (h : s.Sound) :
    Sound { s with executor := s.executor.cancelAll } :=
  cancelAll_induction (P := fun e => Sound { s with executor := e }) (fun _ id he => he.cancel id) h

theorem Sound.raise {s : Session τ} (h : s.Sound) (id : TaskId) :
    Sound { s with executor := s.executor.raise id } := by
  refine h.shrink rfl ?_ (List.Sublist.refl _) fun job hjob hlive => ?_
  · simp only [signs, raise_signs]
    exact List.Subperm.refl _
  · obtain ⟨old, hold, rfl⟩ := List.mem_map.mp hjob
    split at hlive
    next hid =>
      rw [if_pos hid, Job.raise_id]
      exact h.live old hold (old.raise_cancelled ▸ hlive)
    next hid =>
      rw [if_neg hid]
      exact h.live old hold hlive

/-- A task that starts is taken from those that wait. -/
theorem Sound.perm_starting {s : Session τ} (h : s.Sound) {job : Job τ}
    (hjob : job ∈ s.executor.sweep.jobs) (time : Span) :
    (job :: (s.starting job time).executor.jobs).Perm s.executor.sweep.jobs :=
  Labelled.perm_cons_eraseP (h.jobs_nodup.sublist (List.filter_sublist.map Job.id)) hjob

/-- Whatever still waits as a task starts has not been thrown away. -/
theorem Sound.starting_sweep {s : Session τ} (h : s.Sound) {job : Job τ}
    (hjob : job ∈ s.executor.sweep.jobs) (time : Span) :
    (s.starting job time).executor.sweep.jobs = (s.starting job time).executor.jobs := by
  refine List.filter_eq_self.mpr fun other hother => ?_
  have hswept := (h.perm_starting hjob time).subset (List.mem_cons_of_mem _ hother)
  simpa using (mem_sweep.mp hswept).2

theorem starting_tracked (s : Session τ) (job : Job τ) (time : Span) :
    (s.starting job time).executor.tracked =
      if job.isSpawned then s.executor.tracked else s.executor.tracked.erase job.id := by
  unfold starting begin Job.isSpawned
  cases job.wait <;> rfl

theorem Sound.starting_signs {s : Session τ} (h : s.Sound) {job : Job τ} (hfree : s.running = none)
    (hjob : job ∈ s.executor.sweep.jobs) (time : Span) :
    (s.starting job time).signs.Subperm s.signs := by
  rw [signs_of_running rfl, signs_of_free hfree]
  exact ((h.perm_starting hjob time).map Job.sign).subperm.trans s.executor.sweep_signs.subperm

theorem Sound.starting {s : Session τ} (h : s.Sound) {job : Job τ} (hfree : s.running = none)
    (hjob : job ∈ s.executor.sweep.jobs) (time : Span) : (s.starting job time).Sound := by
  have hperm := h.perm_starting hjob time
  refine h.shrink rfl (h.starting_signs hfree hjob time) ?_ fun other hother hlive => ?_
  · rw [starting_tracked]
    split
    · exact List.Sublist.refl _
    · exact List.erase_sublist
  · have hmem := mem_sweep.mp (hperm.subset (List.mem_cons_of_mem _ hother))
    have htracked := h.live other hmem.1 hlive
    have hne : other.id ≠ job.id := by
      have hnodup := (hperm.map Job.id).nodup_iff.mpr
        (h.jobs_nodup.sublist (List.filter_sublist.map Job.id))
      exact fun heq => (List.nodup_cons.mp hnodup).1 (heq ▸ List.mem_map_of_mem hother)
    rw [starting_tracked]
    split
    · exact htracked
    · exact (List.mem_erase_of_ne hne).mpr htracked

theorem arriving_signs (s : Session τ) (time : Span) :
    (s.arriving time).signs.Sublist s.signs :=
  List.Sublist.append (List.Sublist.refl _) s.executor.sweep_signs

theorem Sound.arriving {s : Session τ} (h : s.Sound) (time : Span) : (s.arriving time).Sound :=
  h.shrink rfl (s.arriving_signs time).subperm (List.Sublist.refl _)
    fun job hjob hlive => h.live job (mem_sweep.mp hjob).1 hlive

theorem Sound.proceed {s : Session τ} (h : s.Sound) (choice : Nat) :
    (s.perform (.proceed choice)).1.Sound := by
  cases s.proceeds choice with
  | starts target time job before free found out => exact out ▸ h.starting free found time
  | arrives target time before free out => exact out ▸ h.arriving time
  | rests still out => exact out.symm ▸ h

/-- What comes of waiting: the task that runs goes back to those that wait, or it is thrown
away, or there is nothing to wait for. -/
inductive Waits (s : Session τ) (raised : Bool) : Prop
  | parks (job : Job τ) (before : s.running = some job) (kept : job.id ∈ s.executor.tracked)
      (spawned : job.isSpawned = true)
      (out : s.wait raised = { s with
        executor := { s.executor with
          jobs := s.executor.jobs ++ [{ job with wait := .signal raised }] }
        running := none })
  | drops (job : Job τ) (before : s.running = some job)
      (out : s.wait raised = { s with running := none })
  | rests (out : s.wait raised = s)

theorem waits (s : Session τ) (raised : Bool) : Waits s raised := by
  obtain ⟨e, target, running⟩ := s
  match running with
  | none => exact .rests rfl
  | some ⟨id, .deadline time, task, cancelled⟩ => exact .rests rfl
  | some ⟨id, .signal before, task, cancelled⟩ =>
      by_cases hid : id ∈ e.tracked
      · exact .parks _ rfl hid rfl (by simp [Session.wait, park, hid])
      · exact .drops _ rfl (by simp [Session.wait, park, hid])

theorem wait_signs (s : Session τ) (raised : Bool) : (s.wait raised).signs.Subperm s.signs := by
  cases s.waits raised with
  | parks job before kept spawned out =>
      have hsign : Job.sign { job with wait := .signal raised } = job.sign := by
        rw [Job.sign, Job.sign, spawned]
        rfl
      rw [out, signs_of_running before, signs_of_free rfl, Executor.signs, List.map_append,
        List.map_singleton, hsign]
      exact (List.perm_append_singleton _ _).subperm
  | drops job before out =>
      rw [out, signs_of_running before, signs_of_free rfl]
      exact (List.sublist_cons_self _ _).subperm
  | rests out => exact out.symm ▸ List.Subperm.refl _

theorem Sound.wait {s : Session τ} (h : s.Sound) (raised : Bool) : (s.wait raised).Sound := by
  have hsigns := s.wait_signs raised
  cases s.waits raised with
  | parks job before kept spawned out =>
      rw [out] at hsigns ⊢
      refine h.shrink rfl hsigns (List.Sublist.refl _) fun other hother hlive => ?_
      rcases List.mem_append.mp hother with hother | hother
      · exact h.live other hother hlive
      · rw [List.mem_singleton.mp hother]
        exact kept
  | drops job before out =>
      rw [out] at hsigns ⊢
      exact h.shrink rfl hsigns (List.Sublist.refl _) h.live
  | rests out => exact out.symm ▸ h

/-- What comes of finishing: the task that runs ends, or there is none. -/
theorem finish_eq (s : Session τ) :
    (∃ job, s.running = some job ∧ s.finish =
      ({ s with executor := s.executor.retire job.id, running := none }, .ended job.id)) ∨
    s.running = none ∧ s.finish = (s, .quiet) := by
  unfold finish
  cases s.running with
  | none => exact .inr ⟨rfl, rfl⟩
  | some job => exact .inl ⟨job, rfl, rfl⟩

theorem Sound.ends {s : Session τ} (h : s.Sound) {job : Job τ} (hrun : s.running = some job) :
    Sound { s with executor := s.executor.retire job.id, running := none } := by
  refine h.shrink rfl ?_ List.erase_sublist fun other hother hlive => ?_
  · rw [signs_of_running hrun, signs_of_free rfl]
    exact (List.sublist_cons_self _ _).subperm
  · exact (List.mem_erase_of_ne (h.running_apart hrun hother)).mpr (h.live other hother hlive)

theorem Sound.finish {s : Session τ} (h : s.Sound) : s.finish.1.Sound := by
  rcases s.finish_eq with ⟨job, hrun, hfinish⟩ | ⟨_, hfinish⟩
  · exact hfinish ▸ h.ends hrun
  · exact hfinish.symm ▸ h

theorem Sound.perform {s : Session τ} (h : s.Sound) (m : Move τ) : (s.perform m).1.Sound := by
  cases m with
  | schedule delay task => exact h.track _ task
  | spawn task => exact h.track _ task
  | cancel id => exact h.cancel id
  | cancelAll => exact h.cancelAll
  | raise id => exact h.raise id
  | pass distance => exact h.shrink rfl (List.Subperm.refl _) (List.Sublist.refl _) h.live
  | advance distance => exact h.shrink rfl (List.Subperm.refl _) (List.Sublist.refl _) h.live
  | proceed choice => exact h.proceed choice
  | wait raised => exact h.wait raised
  | finish => exact h.finish

end Session

end Executor

end Cadence
