import Cadence.Executor.Loop
import Cadence.Proofs.Executor.Jobs
import Mathlib.Logic.Function.Basic

/-! # Numbers and what they were given out for

A roster says for each number what task it was given out for. It is kept through all that
may happen to an executor, while several tasks may be under way. What happens to one number
leaves the others as they are.
-/

namespace Cadence.Executor

variable {τ : Type}

/-- The books of an executor agree with a roster. The tasks of `running` were taken out to run
and have not been taken off the books since. -/
structure Rostered (role : TaskId → τ) (running : List TaskId) (e : Executor τ) : Prop where
  sound : Session.Sound ({ executor := e } : Session τ)
  running_lt : ∀ id ∈ running, id < e.nextId
  apart : ∀ id ∈ running, ∀ job ∈ e.jobs, job.id ≠ id
  task : ∀ job ∈ e.jobs, job.task = role job.id
  accounted : ∀ id ∈ e.tracked,
    (∃ job ∈ e.jobs, job.id = id ∧ job.cancelled = false) ∨ id ∈ running

/-- What waits under a number and is not thrown away still does, and a number does not come
back into the books. -/
structure Spared (e e' : Executor τ) (id : TaskId) : Prop where
  jobs : ∀ job, job.id = id → job.cancelled = false → (job ∈ e'.jobs ↔ job ∈ e.jobs)
  tracked : id ∈ e'.tracked → id ∈ e.tracked

theorem Spared.refl (e : Executor τ) (id : TaskId) : Spared e e id :=
  ⟨fun _ _ _ => Iff.rfl, fun h => h⟩

theorem Spared.trans {e e' e'' : Executor τ} {id : TaskId} (h : Spared e e' id)
    (h' : Spared e' e'' id) : Spared e e'' id :=
  ⟨fun job hid hlive => (h'.jobs job hid hlive).trans (h.jobs job hid hlive),
    fun hid => h.tracked (h'.tracked hid)⟩

variable {role : TaskId → τ} {running : List TaskId} {e : Executor τ}

theorem rostered_empty (role : TaskId → τ) : Rostered role [] ({} : Executor τ) where
  sound := Session.sound_fresh
  running_lt := nofun
  apart := nofun
  task := nofun
  accounted := nofun

theorem Rostered.id_lt (h : Rostered role running e) {job : Job τ} (hjob : job ∈ e.jobs) :
    job.id < e.nextId := by
  have hsign : job.sign ∈ ({ executor := e } : Session τ).signs := by
    rw [Session.signs_of_free rfl]
    exact List.mem_map_of_mem hjob
  exact h.sound.id_lt job.sign hsign

/-- Two tasks under one number are one task. -/
theorem Rostered.eq_of_id_eq (h : Rostered role running e) {job other : Job τ}
    (hjob : job ∈ e.jobs) (hother : other ∈ e.jobs) (hid : job.id = other.id) : job = other :=
  List.inj_on_of_nodup_map h.sound.jobs_nodup hjob hother hid

/-- The time does not matter. -/
theorem Rostered.at (h : Rostered role running e) (time : Span) :
    Rostered role running { e with elapsed := time } where
  sound := h.sound.shrink rfl (List.Subperm.refl _) (List.Sublist.refl _) h.sound.live
  running_lt := h.running_lt
  apart := h.apart
  task := h.task
  accounted := h.accounted

/-! ## Adding tasks -/

theorem Rostered.track (h : Rostered role running e) (wait : Wait) (task : τ) :
    Rostered (Function.update role e.nextId task) running (e.track wait task).2 where
  sound := h.sound.track wait task
  running_lt id hid := Nat.lt_succ_of_lt (h.running_lt id hid)
  apart id hid job hjob := by
    rcases List.mem_append.mp hjob with hjob | hjob
    · exact h.apart id hid job hjob
    · rw [List.mem_singleton.mp hjob]
      exact (Nat.ne_of_lt (h.running_lt id hid)).symm
  task job hjob := by
    rcases List.mem_append.mp hjob with hjob | hjob
    · rw [Function.update_of_ne (Nat.ne_of_lt (h.id_lt hjob))]
      exact h.task job hjob
    · rw [List.mem_singleton.mp hjob, Function.update_self]
  accounted id hid := by
    rcases List.mem_append.mp hid with hid | hid
    · refine (h.accounted id hid).imp_left fun ⟨job, hjob, hfound⟩ => ?_
      exact ⟨job, List.mem_append_left _ hjob, hfound⟩
    · rw [List.mem_singleton.mp hid]
      exact .inl ⟨_, List.mem_append_right _ List.mem_cons_self, rfl, rfl⟩

theorem spared_track (wait : Wait) (task : τ) {id : TaskId} (hid : id < e.nextId) :
    Spared e (e.track wait task).2 id where
  jobs job hjob _ := by
    show job ∈ e.jobs ++ [_] ↔ _
    rw [List.mem_append, List.mem_singleton]
    refine or_iff_left ?_
    rintro rfl
    exact Nat.lt_irrefl _ (hjob ▸ hid)
  tracked hmem := by
    rcases List.mem_append.mp hmem with hmem | hmem
    · exact hmem
    · exact absurd (List.mem_singleton.mp hmem) (Nat.ne_of_lt hid)

/-! ## Taking tasks back -/

/-- A task after one was cancelled: it was there before, and if it is not thrown away then it
is the same. -/
theorem mem_cancel {id : TaskId} {job : Job τ} (h : job ∈ (e.cancel id).jobs) :
    ∃ old ∈ e.jobs, old.id = job.id ∧ old.task = job.task ∧
      (job.cancelled = false → old = job) := by
  unfold cancel at h
  split at h
  next =>
    obtain ⟨old, hold, rfl⟩ := List.mem_map.mp h
    refine ⟨old, hold, ?_⟩
    split
    · exact ⟨rfl, rfl, nofun⟩
    · exact ⟨rfl, rfl, fun _ => rfl⟩
  next => exact ⟨job, h, rfl, rfl, fun _ => rfl⟩

theorem mem_cancel_of_ne {id : TaskId} {job : Job τ} (hjob : job ∈ e.jobs) (hid : job.id ≠ id) :
    job ∈ (e.cancel id).jobs := by
  unfold cancel
  split
  next => exact List.mem_map.mpr ⟨job, hjob, if_neg hid⟩
  next => exact hjob

theorem Rostered.cancel (h : Rostered role running e) (id : TaskId) :
    Rostered role running (e.cancel id) where
  sound := h.sound.cancel id
  running_lt other hother := by
    rw [cancel_nextId]
    exact h.running_lt other hother
  apart other hother job hjob := by
    obtain ⟨old, hold, hid, _⟩ := mem_cancel hjob
    exact hid ▸ h.apart other hother old hold
  task job hjob := by
    obtain ⟨old, hold, hid, htask, _⟩ := mem_cancel hjob
    rw [← hid, ← htask]
    exact h.task old hold
  accounted other hother := by
    rw [cancel_tracked, h.sound.tracked_nodup.mem_erase_iff] at hother
    refine (h.accounted other hother.2).imp_left fun ⟨job, hjob, hid, hlive⟩ => ?_
    exact ⟨job, mem_cancel_of_ne hjob (hid ▸ hother.1), hid, hlive⟩

theorem Rostered.not_tracked_cancel (h : Rostered role running e) (id : TaskId) :
    id ∉ (e.cancel id).tracked := by
  rw [cancel_tracked]
  exact fun hmem => (h.sound.tracked_nodup.mem_erase_iff.mp hmem).1 rfl

theorem spared_cancel {id other : TaskId} (hother : other ≠ id) : Spared e (e.cancel id) other where
  jobs job hjob hlive := by
    refine ⟨fun hmem => ?_, fun hmem => mem_cancel_of_ne hmem (hjob ▸ hother)⟩
    obtain ⟨old, hold, _, _, heq⟩ := mem_cancel hmem
    exact heq hlive ▸ hold
  tracked hmem := by
    rw [cancel_tracked] at hmem
    exact List.mem_of_mem_erase hmem

/-! ## Waking tasks -/

theorem mem_raise {id : TaskId} {job : Job τ} :
    job ∈ (e.raise id).jobs ↔ ∃ old ∈ e.jobs, (if old.id = id then old.raise else old) = job :=
  List.mem_map

theorem Job.raise_task (job : Job τ) : job.raise.task = job.task := by
  unfold Job.raise
  cases job.wait <;> rfl

/-- Waking a task changes nothing but what it waits for. -/
theorem sign_of_mem_raise {id : TaskId} {job : Job τ} (h : job ∈ (e.raise id).jobs) :
    ∃ old ∈ e.jobs, old.id = job.id ∧ old.task = job.task ∧ old.cancelled = job.cancelled ∧
      (job.id ≠ id → old = job) := by
  obtain ⟨old, hold, rfl⟩ := mem_raise.mp h
  refine ⟨old, hold, ?_⟩
  split
  next hid =>
    exact ⟨old.raise_id.symm, (Job.raise_task old).symm, old.raise_cancelled.symm,
      fun hne => absurd (old.raise_id.trans hid) hne⟩
  next => exact ⟨rfl, rfl, rfl, fun _ => rfl⟩

theorem Rostered.raise (h : Rostered role running e) (id : TaskId) :
    Rostered role running (e.raise id) where
  sound := h.sound.raise id
  running_lt := h.running_lt
  apart other hother job hjob := by
    obtain ⟨old, hold, hid, _⟩ := sign_of_mem_raise hjob
    exact hid ▸ h.apart other hother old hold
  task job hjob := by
    obtain ⟨old, hold, hid, htask, _⟩ := sign_of_mem_raise hjob
    rw [← hid, ← htask]
    exact h.task old hold
  accounted other hother := by
    refine (h.accounted other hother).imp_left fun ⟨job, hjob, hid, hlive⟩ => ?_
    refine ⟨_, mem_raise.mpr ⟨job, hjob, rfl⟩, ?_⟩
    split
    · exact ⟨job.raise_id.trans hid, job.raise_cancelled.trans hlive⟩
    · exact ⟨hid, hlive⟩

theorem spared_raise {id other : TaskId} (hother : other ≠ id) : Spared e (e.raise id) other where
  jobs job hjob _ := by
    refine ⟨fun hmem => ?_, fun hmem => mem_raise.mpr ⟨job, hmem, if_neg (hjob ▸ hother)⟩⟩
    obtain ⟨old, hold, _, _, _, heq⟩ := sign_of_mem_raise hmem
    exact heq (hjob ▸ hother) ▸ hold
  tracked hmem := hmem

/-! ## Turns of the loop -/

theorem Rostered.retire {id : TaskId} (h : Rostered role (id :: running) e) :
    Rostered role running (e.retire id) where
  sound := by
    refine h.sound.shrink rfl (List.Subperm.refl _) List.erase_sublist fun job hjob hlive => ?_
    have hne : job.id ≠ id := h.apart id List.mem_cons_self job hjob
    exact (List.mem_erase_of_ne hne).mpr (h.sound.live job hjob hlive)
  running_lt other hother := h.running_lt other (List.mem_cons_of_mem _ hother)
  apart other hother := h.apart other (List.mem_cons_of_mem _ hother)
  task := h.task
  accounted other hother := by
    obtain ⟨hne, hmem⟩ := h.sound.tracked_nodup.mem_erase_iff.mp hother
    refine (h.accounted other hmem).imp_right fun hrunning => ?_
    exact (List.mem_cons.mp hrunning).resolve_left hne

theorem Rostered.afterRun {d : Drive} (h : Rostered role (d.running.toList ++ running) e) :
    Rostered role running (e.afterRun d) := by
  obtain ⟨target, before⟩ := d
  cases before with
  | none => exact h
  | some id => exact h.retire

theorem spared_afterRun (e : Executor τ) (d : Drive) (id : TaskId) :
    Spared e (e.afterRun d) id := by
  obtain ⟨target, before⟩ := d
  cases before with
  | none => exact Spared.refl e id
  | some id => exact ⟨fun _ _ _ => Iff.rfl, List.mem_of_mem_erase⟩

theorem Rostered.moved (h : Rostered role running e) (time : Span) :
    Rostered role running (e.moved time) where
  sound := h.sound.arriving time
  running_lt := h.running_lt
  apart id hid job hjob := h.apart id hid job (mem_sweep.mp hjob).1
  task job hjob := h.task job (mem_sweep.mp hjob).1
  accounted id hid := by
    refine (h.accounted id hid).imp_left fun ⟨job, hjob, hfound, hlive⟩ => ?_
    exact ⟨job, mem_sweep.mpr ⟨hjob, hlive⟩, hfound, hlive⟩

theorem spared_moved (e : Executor τ) (time : Span) (id : TaskId) : Spared e (e.moved time) id where
  jobs job _ hlive := by
    show job ∈ e.sweep.jobs ↔ _
    rw [mem_sweep]
    exact and_iff_left hlive
  tracked hmem := hmem

/-- Any number of tasks may be said to run, or none. -/
theorem Session.Sound.still {s : Session τ} (h : s.Sound) :
    Session.Sound ({ executor := s.executor } : Session τ) := by
  refine h.shrink rfl ?_ (List.Sublist.refl _) h.live
  rw [Session.signs_of_free rfl]
  exact (List.sublist_append_right _ _).subperm

theorem mem_begin (h : Rostered role running e) {job other : Job τ} :
    other ∈ (e.begin job).jobs ↔ other ∈ e.jobs ∧ other.id ≠ job.id := by
  show other ∈ e.jobs.eraseP _ ↔ _
  rw [Labelled.eraseP_eq_filter h.sound.jobs_nodup, List.mem_filter, decide_eq_true_eq]

theorem begin_tracked_subset (e : Executor τ) (job : Job τ) :
    (e.begin job).tracked ⊆ e.tracked := by
  unfold begin
  cases job.wait with
  | deadline => exact List.erase_subset
  | signal => exact List.Subset.refl _

/-- A task starts once those that were cancelled have been thrown away. -/
theorem Rostered.starting (h : Rostered role running e) {job : Job τ} (hjob : job ∈ e.sweep.jobs)
    (time : Span) : Rostered role (job.id :: running) ((e.moved time).begin job) where
  sound := (h.sound.starting rfl hjob time).still
  running_lt id hid := by
    rcases List.mem_cons.mp hid with rfl | hid
    · exact (h.moved time).id_lt hjob
    · exact h.running_lt id hid
  apart id hid other hother := by
    rw [mem_begin (h.moved time)] at hother
    rcases List.mem_cons.mp hid with rfl | hid
    · exact hother.2
    · exact (h.moved time).apart id hid other hother.1
  task other hother := (h.moved time).task other ((mem_begin (h.moved time)).mp hother).1
  accounted id hid := by
    by_cases heq : id = job.id
    · exact .inr (heq ▸ List.mem_cons_self)
    · refine ((h.moved time).accounted id (begin_tracked_subset _ job hid)).imp ?_
        (List.mem_cons_of_mem _)
      rintro ⟨other, hother, rfl, hkept⟩
      exact ⟨other, (mem_begin (h.moved time)).mpr ⟨hother, heq⟩, rfl, hkept⟩

theorem spared_begin (h : Rostered role running e) {job : Job τ} {id : TaskId}
    (hid : id ≠ job.id) : Spared e (e.begin job) id where
  jobs other hother _ := by
    rw [mem_begin h]
    exact and_iff_left (hother ▸ hid)
  tracked hmem := begin_tracked_subset e job hmem

/-! ## A loop with a choice -/

namespace Loop

/-- What comes of a turn: a task starts that is ready, or the drive is over. -/
inductive Turns (role : TaskId → τ) (running : List TaskId) (l : Loop τ) (d : Drive) : Prop
  | runs (job : Job τ) (l' : Loop τ) (found : job ∈ l.executor.jobs)
      (live : job.cancelled = false) (ready : job.ready l'.executor.elapsed = true)
      (out : l.turn d = .run job.task job.events l' { d with running := some job.id })
      (rostered : Rostered role (job.id :: running) l'.executor)
      (next : l'.executor.nextId = l.executor.nextId)
      (later : l.executor.elapsed ≤ l'.executor.elapsed)
      (others : ∀ id, id ≠ job.id → Spared l.executor l'.executor id)
  | arrives (l' : Loop τ) (out : l.turn d = .over .arrived l')
      (rostered : Rostered role running l'.executor)
      (next : l'.executor.nextId = l.executor.nextId)
      (later : l.executor.elapsed ≤ l'.executor.elapsed)
      (spared : ∀ id, Spared l.executor l'.executor id)
      (calm : ∀ job ∈ l'.executor.jobs, job.cancelled = false ∧
        job.ready l'.executor.elapsed = false)

theorem turns {l : Loop τ} {d : Drive}
    (h : Rostered role (d.running.toList ++ running) l.executor) : Turns role running l d := by
  have hended := h.afterRun
  obtain ⟨time, hlater, hexecutor, hfound⟩ :=
    (l.executor.afterRun d).sweep.seek_spec d.target l.choice
  have hseek : (l.executor.afterRun d).sweep.seek d.target l.choice =
      ((l.executor.afterRun d).moved time,
        ((l.executor.afterRun d).sweep.seek d.target l.choice).2) :=
    Prod.ext hexecutor rfl
  have hnext : (l.executor.afterRun d).nextId = l.executor.nextId := by
    unfold afterRun retire
    split <;> rfl
  have helapsed : (l.executor.afterRun d).elapsed = l.executor.elapsed := by
    unfold afterRun retire
    split <;> rfl
  have hspared (id : TaskId) : Spared l.executor ((l.executor.afterRun d).moved time) id :=
    (spared_afterRun l.executor d id).trans (spared_moved _ time id)
  cases hjob : ((l.executor.afterRun d).sweep.seek d.target l.choice).2 with
  | some job =>
      rw [hjob] at hseek hfound
      obtain ⟨hmem, hready⟩ := hfound
      obtain ⟨hmem', hlive⟩ := mem_sweep.mp hmem
      have hwas : job ∈ l.executor.jobs :=
        ((spared_afterRun l.executor d job.id).jobs job rfl hlive).mp hmem'
      refine .runs job _ hwas hlive hready (turn_of_found hseek) (hended.starting hmem time) hnext
        (helapsed ▸ hlater) fun id hid => ?_
      exact (hspared id).trans (spared_begin (hended.moved time) hid)
  | none =>
      rw [hjob] at hseek hfound
      exact .arrives _ (turn_of_none hseek) (hended.moved time) hnext (helapsed ▸ hlater) hspared
        fun job hmem => ⟨(mem_sweep.mp hmem).2, hfound job hmem⟩

end Loop

end Cadence.Executor
