import Cadence.Proofs.Executor.Jobs
import Mathlib.Data.List.Nodup
import Mathlib.Data.List.Range

/-! # The books of an executor

An observer of a session takes down which numbers are handed out, which of them
are cancelled, and which tasks start and end. Whatever is called from wherever,
and whichever ready task the loop chooses, the books of the executor hold the
numbers that are still open by these notes, in the order of their issue.
-/

namespace Cadence.Executor

variable {τ : Type}

/-! ## Notes of an observer -/

structure Ledger where
  issued : List TaskId := []
  /-- The numbers among those issued that belong to spawned tasks. -/
  spawned : List TaskId := []
  cancelled : List TaskId := []
  started : List TaskId := []
  ended : List TaskId := []

namespace Ledger

def issue (l : Ledger) (id : TaskId) (asSpawned : Bool) : Ledger :=
  { l with
    issued := l.issued ++ [id]
    spawned := if asSpawned then l.spawned ++ [id] else l.spawned }

def strike (l : Ledger) (ids : List TaskId) : Ledger :=
  { l with cancelled := l.cancelled ++ ids }

def start (l : Ledger) (id : TaskId) : Ledger := { l with started := l.started ++ [id] }

def close (l : Ledger) (id : TaskId) : Ledger := { l with ended := l.ended ++ [id] }

/-- Takes down a move and what it led to. Only a number that was handed out can be cancelled. -/
def note (l : Ledger) : Move τ → Signal τ → Ledger
  | .schedule .., .issued id => l.issue id false
  | .spawn _, .issued id => l.issue id true
  | .cancel id, _ => l.strike (l.issued.filter (· = id))
  | .cancelAll, _ => l.strike l.issued
  | _, .started job => l.start job.id
  | _, .ended id => l.close id
  | _, _ => l

/-- A task is open until it is cancelled or, if it is delayed, starts or, if it was spawned,
comes to its end. -/
def isOpen (l : Ledger) (id : TaskId) : Bool :=
  id ∉ l.cancelled && (if id ∈ l.spawned then id ∉ l.ended else id ∉ l.started)

theorem isOpen_iff {l : Ledger} {id : TaskId} :
    l.isOpen id = true ↔ id ∉ l.cancelled ∧ (id ∈ l.spawned → id ∉ l.ended) ∧
      (id ∉ l.spawned → id ∉ l.started) := by
  unfold isOpen
  by_cases hspawned : id ∈ l.spawned <;> simp [hspawned]

/-- What holds of the notes by themselves, where `n` numbers have been handed out. -/
structure Sound (l : Ledger) (n : TaskId) : Prop where
  issued : l.issued = List.range n
  spawned_lt : ∀ id ∈ l.spawned, id < n
  cancelled_lt : ∀ id ∈ l.cancelled, id < n
  started_lt : ∀ id ∈ l.started, id < n
  ended_started : ∀ id ∈ l.ended, id ∈ l.started
  started_once : (l.started.filter (· ∉ l.spawned)).Nodup
  ended_once : l.ended.Nodup

theorem sound_empty : Sound {} 0 where
  issued := rfl
  spawned_lt := nofun
  cancelled_lt := nofun
  started_lt := nofun
  ended_started := nofun
  started_once := List.nodup_nil
  ended_once := List.nodup_nil

theorem Sound.mem_issued {l : Ledger} {n : TaskId} (h : l.Sound n) {id : TaskId} :
    id ∈ l.issued ↔ id < n := by
  rw [h.issued, List.mem_range]

theorem Sound.not_mem_spawned {l : Ledger} {n : TaskId} (h : l.Sound n) : n ∉ l.spawned :=
  fun hn => Nat.lt_irrefl _ (h.spawned_lt n hn)

theorem mem_spawned_issue {l : Ledger} {n id : TaskId} {asSpawned : Bool} :
    id ∈ (l.issue n asSpawned).spawned ↔ id ∈ l.spawned ∨ id = n ∧ asSpawned = true := by
  unfold issue
  cases asSpawned <;> simp

theorem Sound.issue {l : Ledger} {n : TaskId} (h : l.Sound n) (asSpawned : Bool) :
    (l.issue n asSpawned).Sound (n + 1) where
  issued := by
    rw [List.range_succ, ← h.issued]
    rfl
  spawned_lt id hid := by
    rcases mem_spawned_issue.mp hid with hid | ⟨rfl, _⟩
    · exact Nat.lt_succ_of_lt (h.spawned_lt id hid)
    · exact Nat.lt_succ_self _
  cancelled_lt id hid := Nat.lt_succ_of_lt (h.cancelled_lt id hid)
  started_lt id hid := Nat.lt_succ_of_lt (h.started_lt id hid)
  ended_started := h.ended_started
  started_once := by
    have hsame : l.started.filter (· ∉ (l.issue n asSpawned).spawned) =
        l.started.filter (· ∉ l.spawned) := by
      apply List.filter_congr
      intro id hid
      have hne : id ≠ n := Nat.ne_of_lt (h.started_lt id hid)
      simp [mem_spawned_issue, hne]
    exact hsame.symm ▸ h.started_once
  ended_once := h.ended_once

theorem Sound.strike {l : Ledger} {n : TaskId} (h : l.Sound n) {ids : List TaskId}
    (hids : ids ⊆ l.issued) : (l.strike ids).Sound n where
  issued := h.issued
  spawned_lt := h.spawned_lt
  cancelled_lt id hid := (List.mem_append.mp hid).elim (h.cancelled_lt id) fun hid =>
    h.mem_issued.mp (hids hid)
  started_lt := h.started_lt
  ended_started := h.ended_started
  started_once := h.started_once
  ended_once := h.ended_once

theorem Sound.start {l : Ledger} {n : TaskId} (h : l.Sound n) {id : TaskId} (hid : id < n)
    (hnew : id ∉ l.spawned → id ∉ l.started) : (l.start id).Sound n where
  issued := h.issued
  spawned_lt := h.spawned_lt
  cancelled_lt := h.cancelled_lt
  started_lt other hother := by
    rcases List.mem_append.mp hother with hother | hother
    · exact h.started_lt other hother
    · exact List.mem_singleton.mp hother ▸ hid
  ended_started other hother := List.mem_append_left _ (h.ended_started other hother)
  started_once := by
    show ((l.started ++ [id]).filter (· ∉ l.spawned)).Nodup
    rw [List.filter_append]
    by_cases hspawned : id ∈ l.spawned
    · simpa [hspawned] using h.started_once
    · rw [List.filter_cons_of_pos (by simpa using hspawned), List.filter_nil]
      refine List.nodup_append.mpr ⟨h.started_once, List.nodup_singleton _, ?_⟩
      intro other hother new hmem heq
      rw [List.mem_singleton.mp hmem] at heq
      exact hnew hspawned (heq ▸ (List.mem_filter.mp hother).1)
  ended_once := h.ended_once

theorem Sound.close {l : Ledger} {n : TaskId} (h : l.Sound n) {id : TaskId}
    (hstarted : id ∈ l.started) (hnew : id ∉ l.ended) : (l.close id).Sound n where
  issued := h.issued
  spawned_lt := h.spawned_lt
  cancelled_lt := h.cancelled_lt
  started_lt := h.started_lt
  ended_started other hother := by
    rcases List.mem_append.mp hother with hother | hother
    · exact h.ended_started other hother
    · exact List.mem_singleton.mp hother ▸ hstarted
  started_once := h.started_once
  ended_once := by
    refine List.nodup_append.mpr ⟨h.ended_once, List.nodup_singleton _, ?_⟩
    intro other hother new hmem heq
    rw [List.mem_singleton.mp hmem] at heq
    exact hnew (heq ▸ hother)

/-! ## Open numbers -/

/-- The numbers that are open, in the order of their issue. -/
def outstanding (l : Ledger) : List TaskId := l.issued.filter l.isOpen

/-- A number that is handed out is open, and nothing changes for the others. -/
theorem Sound.outstanding_issue {l : Ledger} {n : TaskId} (h : l.Sound n) (asSpawned : Bool) :
    (l.issue n asSpawned).outstanding = l.outstanding ++ [n] := by
  have hold : ∀ id ∈ l.issued, (l.issue n asSpawned).isOpen id = l.isOpen id := by
    intro id hid
    have hne : id ≠ n := Nat.ne_of_lt (h.mem_issued.mp hid)
    rw [Bool.eq_iff_iff, isOpen_iff, isOpen_iff, mem_spawned_issue]
    simp [hne, Ledger.issue]
  have hnew : (l.issue n asSpawned).isOpen n = true := by
    refine isOpen_iff.mpr ⟨fun hn => ?_, fun _ hn => ?_, fun _ hn => ?_⟩
    · exact Nat.lt_irrefl _ (h.cancelled_lt n hn)
    · exact Nat.lt_irrefl _ (h.started_lt n (h.ended_started n hn))
    · exact Nat.lt_irrefl _ (h.started_lt n hn)
  show (l.issued ++ [n]).filter (l.issue n asSpawned).isOpen = _
  rw [List.filter_append, List.filter_congr hold, List.filter_cons_of_pos hnew, List.filter_nil]
  rfl

/-- Where one number is closed it goes, and the others stay. -/
theorem Sound.erase_outstanding {l k : Ledger} {n id : TaskId} (h : l.Sound n)
    (hissued : k.issued = l.issued)
    (hclosed : ∀ x ∈ l.issued, k.isOpen x = true ↔ l.isOpen x = true ∧ x ≠ id) :
    l.outstanding.erase id = k.outstanding := by
  have hnodup : l.outstanding.Nodup := (h.issued ▸ List.nodup_range).filter _
  rw [hnodup.erase_eq_filter, outstanding, outstanding, List.filter_filter, hissued]
  apply List.filter_congr
  intro x hx
  rw [Bool.eq_iff_iff, hclosed x hx]
  simp [and_comm]

theorem isOpen_strike {l : Ledger} {ids : List TaskId} {id : TaskId} :
    (l.strike ids).isOpen id = true ↔ l.isOpen id = true ∧ id ∉ ids := by
  rw [isOpen_iff, isOpen_iff]
  simp only [strike, List.mem_append, not_or]
  tauto

theorem Sound.outstanding_cancel {l : Ledger} {n : TaskId} (h : l.Sound n) (id : TaskId) :
    l.outstanding.erase id = (l.strike (l.issued.filter (· = id))).outstanding := by
  refine h.erase_outstanding rfl fun x hx => ?_
  rw [isOpen_strike, List.mem_filter]
  simp [hx]

theorem outstanding_cancelAll (l : Ledger) : (l.strike l.issued).outstanding = [] := by
  refine List.filter_eq_nil_iff.mpr fun x hx hopen => ?_
  exact (isOpen_strike.mp hopen).2 hx

/-- A delayed task is closed as it starts. -/
theorem Sound.outstanding_start {l : Ledger} {n id : TaskId} (h : l.Sound n)
    (hdelayed : id ∉ l.spawned) : l.outstanding.erase id = (l.start id).outstanding := by
  refine h.erase_outstanding rfl fun x _ => ?_
  rw [isOpen_iff, isOpen_iff]
  simp only [Ledger.start, List.mem_append, List.mem_singleton, not_or]
  by_cases hx : x = id
  · subst hx
    simp [hdelayed]
  · simp [hx]

/-- A spawned task stays open as it starts. -/
theorem outstanding_start_of_spawned {l : Ledger} {id : TaskId} (hspawned : id ∈ l.spawned) :
    (l.start id).outstanding = l.outstanding := by
  refine List.filter_congr fun x _ => ?_
  rw [Bool.eq_iff_iff, isOpen_iff, isOpen_iff]
  simp only [start, List.mem_append, List.mem_singleton, not_or]
  have hne : x ∉ l.spawned → x ≠ id := fun hx heq => hx (heq ▸ hspawned)
  tauto

/-- A spawned task is closed as it comes to its end, and a delayed one was closed before. -/
theorem Sound.outstanding_close {l : Ledger} {n id : TaskId} (h : l.Sound n)
    (hstarted : id ∈ l.started) : l.outstanding.erase id = (l.close id).outstanding := by
  refine h.erase_outstanding rfl fun x _ => ?_
  rw [isOpen_iff, isOpen_iff]
  simp only [Ledger.close, List.mem_append, List.mem_singleton, not_or]
  by_cases hx : x = id
  · subst hx
    simp [hstarted]
  · simp [hx]

end Ledger

/-! ## Sessions and their notes -/

/-- Whether the task that runs gives up control by the move. -/
def Move.yields : Move τ → Bool
  | .wait _ => true
  | .finish => true
  | _ => false

namespace Session

/-- The session after some moves. -/
def after (s : Session τ) (moves : List (Move τ)) : Session τ :=
  moves.foldl (fun s m => (s.perform m).1) s

/-- The notes after some moves. -/
def notes (s : Session τ) (l : Ledger) : List (Move τ) → Ledger
  | [] => l
  | m :: rest => (s.perform m).1.notes (l.note m (s.perform m).2) rest

/-- The session does what the notes say. -/
structure Balanced (s : Session τ) (l : Ledger) : Prop where
  session : s.Sound
  ledger : l.Sound s.executor.nextId
  books : s.executor.tracked = l.outstanding
  spawned : ∀ sign ∈ s.signs, sign.2 = true ↔ sign.1 ∈ l.spawned
  running : ∀ job, s.running = some job → job.id ∈ l.started ∧ job.id ∉ l.ended

theorem balanced_fresh : (fresh : Session τ).Balanced {} where
  session := sound_fresh
  ledger := Ledger.sound_empty
  books := rfl
  spawned := nofun
  running := nofun

theorem Balanced.track {s : Session τ} {l : Ledger} (h : s.Balanced l) (wait : Wait) (task : τ) :
    Balanced { s with executor := (s.executor.track wait task).2 }
      (l.issue s.executor.nextId
        (Job.isSpawned { id := s.executor.nextId, wait, task : Job τ })) where
  session := h.session.track wait task
  ledger := h.ledger.issue _
  books := by
    rw [h.ledger.outstanding_issue, ← h.books]
    rfl
  spawned sign hsign := by
    rw [signs_track] at hsign
    rw [Ledger.mem_spawned_issue]
    rcases List.mem_append.mp hsign with hsign | hsign
    · have hne : sign.1 ≠ s.executor.nextId := Nat.ne_of_lt (h.session.id_lt sign hsign)
      simpa [hne] using h.spawned sign hsign
    · rw [List.mem_singleton.mp hsign]
      simp [Job.sign, h.ledger.not_mem_spawned]
  running := h.running

/-- A move that changes neither the books nor the notes adds no task. -/
theorem Balanced.keep {s t : Session τ} {l : Ledger} (h : s.Balanced l) (hsound : t.Sound)
    (hnext : t.executor.nextId = s.executor.nextId)
    (htracked : t.executor.tracked = s.executor.tracked) (hsigns : t.signs ⊆ s.signs)
    (hrunning : ∀ job, t.running = some job → s.running = some job) : t.Balanced l where
  session := hsound
  ledger := hnext ▸ h.ledger
  books := htracked ▸ h.books
  spawned sign hsign := h.spawned sign (hsigns hsign)
  running job hjob := h.running job (hrunning job hjob)

theorem Balanced.cancel {s : Session τ} {l : Ledger} (h : s.Balanced l) (id : TaskId) :
    Balanced { s with executor := s.executor.cancel id }
      (l.strike (l.issued.filter (· = id))) where
  session := h.session.cancel id
  ledger := by
    rw [cancel_nextId]
    exact h.ledger.strike (List.filter_subset_self _)
  books := by
    rw [cancel_tracked, h.books, h.ledger.outstanding_cancel]
  spawned sign hsign := h.spawned sign (by simpa [signs] using hsign)
  running := h.running

theorem Balanced.cancelAll {s : Session τ} {l : Ledger} (h : s.Balanced l) :
    Balanced { s with executor := s.executor.cancelAll } (l.strike l.issued) where
  session := h.session.cancelAll
  ledger := by
    rw [cancelAll_nextId]
    exact h.ledger.strike (List.Subset.refl _)
  books := (cancelAll_tracked _).trans l.outstanding_cancelAll.symm
  spawned sign hsign := h.spawned sign (by simpa [signs] using hsign)
  running := h.running

/-- A task that may start is open. -/
theorem Balanced.isOpen_of_mem {s : Session τ} {l : Ledger} (h : s.Balanced l) {job : Job τ}
    (hjob : job ∈ s.executor.sweep.jobs) : job.id ∈ l.issued ∧ l.isOpen job.id = true := by
  obtain ⟨hmem, hlive⟩ := mem_sweep.mp hjob
  have htracked := h.session.live job hmem hlive
  rw [h.books] at htracked
  exact List.mem_filter.mp htracked

theorem Balanced.starting {s : Session τ} {l : Ledger} (h : s.Balanced l) {job : Job τ}
    (hfree : s.running = none) (hjob : job ∈ s.executor.sweep.jobs) (time : Span) :
    (s.starting job time).Balanced (l.start job.id) := by
  obtain ⟨hissued, hopen⟩ := h.isOpen_of_mem hjob
  obtain ⟨_, hended, hstarted⟩ := Ledger.isOpen_iff.mp hopen
  have hsigns := (h.session.starting_signs hfree hjob time).subset
  have hspawned : job.isSpawned = true ↔ job.id ∈ l.spawned :=
    h.spawned job.sign (hsigns (by rw [signs_of_running rfl]; exact List.mem_cons_self))
  refine ⟨h.session.starting hfree hjob time,
    h.ledger.start (h.ledger.mem_issued.mp hissued) hstarted, ?_,
    fun sign hsign => h.spawned sign (hsigns hsign), ?_⟩
  · rw [starting_tracked, h.books]
    split
    next hkind => exact (Ledger.outstanding_start_of_spawned (hspawned.mp hkind)).symm
    next hkind => exact h.ledger.outstanding_start fun hmem => hkind (hspawned.mpr hmem)
  · intro other hother
    obtain rfl := Option.some.inj hother
    refine ⟨List.mem_append_right _ List.mem_cons_self, fun hend => ?_⟩
    -- what has ended has started, so the task was closed either way
    by_cases hmem : job.id ∈ l.spawned
    · exact hended hmem hend
    · exact hstarted hmem (h.ledger.ended_started _ hend)

theorem Balanced.proceed {s : Session τ} {l : Ledger} (h : s.Balanced l) (choice : Nat) :
    (s.perform (.proceed choice)).1.Balanced
      (l.note (.proceed choice) (s.perform (.proceed choice)).2) := by
  cases s.proceeds choice with
  | starts target time job before free found out => exact out ▸ h.starting free found time
  | arrives target time before free out =>
      rw [out]
      exact h.keep (h.session.arriving time) rfl rfl (s.arriving_signs time).subset
        fun _ hjob => hjob
  | rests still out => exact out.symm ▸ h

theorem Balanced.wait {s : Session τ} {l : Ledger} (h : s.Balanced l) (raised : Bool) :
    (s.wait raised).Balanced l := by
  have hsigns := (s.wait_signs raised).subset
  have hsound := h.session.wait raised
  cases s.waits raised with
  | parks job before kept spawned out =>
      rw [out] at hsigns hsound ⊢
      exact h.keep hsound rfl rfl hsigns nofun
  | drops job before out =>
      rw [out] at hsigns hsound ⊢
      exact h.keep hsound rfl rfl hsigns nofun
  | rests out => exact out.symm ▸ h

theorem Balanced.finish {s : Session τ} {l : Ledger} (h : s.Balanced l) :
    s.finish.1.Balanced (l.note (.finish : Move τ) s.finish.2) := by
  rcases s.finish_eq with ⟨job, hrun, hfinish⟩ | ⟨_, hfinish⟩
  · obtain ⟨hstarted, hended⟩ := h.running job hrun
    rw [hfinish]
    refine ⟨h.session.ends hrun, h.ledger.close hstarted hended, ?_, fun sign hsign => ?_, nofun⟩
    · show s.executor.tracked.erase job.id = _
      rw [h.books, h.ledger.outstanding_close hstarted]
      rfl
    · rw [signs_of_free rfl] at hsign
      exact h.spawned sign (by rw [signs_of_running hrun]; exact List.mem_cons_of_mem _ hsign)
  · exact hfinish.symm ▸ h

theorem Balanced.perform {s : Session τ} {l : Ledger} (h : s.Balanced l) (m : Move τ) :
    (s.perform m).1.Balanced (l.note m (s.perform m).2) := by
  have hsound := h.session.perform m
  cases m with
  | schedule delay task => exact h.track _ task
  | spawn task => exact h.track _ task
  | cancel id => exact h.cancel id
  | cancelAll => exact h.cancelAll
  | raise id =>
      exact h.keep hsound rfl rfl (by simp [Session.perform, signs]) fun _ hjob => hjob
  | pass distance => exact h.keep hsound rfl rfl (List.Subset.refl _) fun _ hjob => hjob
  | advance distance => exact h.keep hsound rfl rfl (List.Subset.refl _) fun _ hjob => hjob
  | proceed choice => exact h.proceed choice
  | wait raised => exact h.wait raised
  | finish => exact h.finish

theorem Balanced.after {s : Session τ} {l : Ledger} (h : s.Balanced l) (moves : List (Move τ)) :
    (s.after moves).Balanced (s.notes l moves) := by
  induction moves generalizing s l with
  | nil => exact h
  | cons m rest ih => exact ih (h.perform m)

/-! ## The task that runs -/

/-- A task that runs stays in control through whatever it calls. -/
theorem running_perform {s : Session τ} {job : Job τ} (hrun : s.running = some job) {m : Move τ}
    (hm : m.yields = false) : (s.perform m).1.running = some job := by
  cases m with
  | proceed choice =>
      cases s.proceeds choice with
      | starts target time other before free => cases free.symm.trans hrun
      | arrives target time before free => cases free.symm.trans hrun
      | rests still out => exact out.symm ▸ hrun
  | wait raised => cases hm
  | finish => cases hm
  | _ => exact hrun

theorem running_after {s : Session τ} {job : Job τ} (hrun : s.running = some job)
    {moves : List (Move τ)} (hmoves : ∀ m ∈ moves, m.yields = false) :
    (s.after moves).running = some job := by
  induction moves generalizing s with
  | nil => exact hrun
  | cons m rest ih =>
      obtain ⟨hm, hrest⟩ := List.forall_mem_cons.mp hmoves
      exact ih (running_perform hrun hm) hrest

/-! ## What a move leads to -/

/-- Only a turn starts a task, and the task was open. -/
theorem Balanced.isOpen_of_started {s : Session τ} {l : Ledger} (h : s.Balanced l) {m : Move τ}
    {job : Job τ} (hstarted : (s.perform m).2 = .started job) :
    job.id ∈ l.issued ∧ l.isOpen job.id = true := by
  cases m with
  | proceed choice =>
      cases s.proceeds choice with
      | starts target time found before free hfound out =>
          cases (congrArg Prod.snd out).symm.trans hstarted
          exact h.isOpen_of_mem hfound
      | arrives target time before free out => cases (congrArg Prod.snd out).symm.trans hstarted
      | rests still out => cases (congrArg Prod.snd out).symm.trans hstarted
  | finish =>
      rcases s.finish_eq with ⟨_, _, hfinish⟩ | ⟨_, hfinish⟩
      · cases (congrArg Prod.snd hfinish).symm.trans hstarted
      · cases (congrArg Prod.snd hfinish).symm.trans hstarted
  | _ => cases hstarted

/-- The number that is handed out is the next one. -/
theorem issued_eq {s : Session τ} {m : Move τ} {id : TaskId}
    (hissued : (s.perform m).2 = .issued id) : id = s.executor.nextId := by
  cases m with
  | schedule delay task => exact (Signal.issued.inj hissued).symm
  | spawn task => exact (Signal.issued.inj hissued).symm
  | proceed choice =>
      cases s.proceeds choice with
      | starts target time found before free hfound out =>
          cases (congrArg Prod.snd out).symm.trans hissued
      | arrives target time before free out => cases (congrArg Prod.snd out).symm.trans hissued
      | rests still out => cases (congrArg Prod.snd out).symm.trans hissued
  | finish =>
      rcases s.finish_eq with ⟨_, _, hfinish⟩ | ⟨_, hfinish⟩
      · cases (congrArg Prod.snd hfinish).symm.trans hissued
      · cases (congrArg Prod.snd hfinish).symm.trans hissued
  | _ => cases hissued

/-- After any moves, whoever makes them and whichever ready tasks the loop chooses: no number
is handed out twice. A task that starts was not cancelled; it has not started before, unless
it was spawned, and then it has not come to its end. No task comes to its end twice. As many
tasks are pending as numbers are open. A task that runs comes to its end when it finishes,
also if it was cancelled since it was last started. -/
theorem books_hold_what_is_open (moves : List (Move τ)) :
    let s := (fresh : Session τ).after moves
    let l := (fresh : Session τ).notes {} moves
    l.issued.Nodup ∧
    (∀ m id, (s.perform m).2 = .issued id → id ∉ l.issued) ∧
    (∀ m job, (s.perform m).2 = .started job → job.id ∈ l.issued ∧ job.id ∉ l.cancelled ∧
      (job.id ∉ l.spawned → job.id ∉ l.started) ∧ (job.id ∈ l.spawned → job.id ∉ l.ended)) ∧
    (l.started.filter (· ∉ l.spawned)).Nodup ∧
    l.ended.Nodup ∧
    Timeline.pending Drive s.executor = l.issued.countP l.isOpen ∧
    ∀ job, s.running = some job → ∀ calls, (∀ m ∈ calls, Move.yields m = false) →
      (s.after calls).running = some job ∧
      ((s.after calls).perform .finish).2 = .ended job.id := by
  intro s l
  have h : s.Balanced l := balanced_fresh.after moves
  refine ⟨h.ledger.issued ▸ List.nodup_range, fun m id hissued => ?_, fun m job hstarted => ?_,
    h.ledger.started_once, h.ledger.ended_once, ?_, fun job hrun calls hcalls => ?_⟩
  · rw [issued_eq hissued, h.ledger.mem_issued]
    exact Nat.lt_irrefl _
  · obtain ⟨hissued, hopen⟩ := h.isOpen_of_started hstarted
    obtain ⟨hcancelled, hended, hnew⟩ := Ledger.isOpen_iff.mp hopen
    exact ⟨hissued, hcancelled, hnew, hended⟩
  · show s.executor.tracked.length = _
    rw [h.books, List.countP_eq_length_filter]
    rfl
  · have hstill := running_after hrun hcalls
    refine ⟨hstill, ?_⟩
    show ((s.after calls).finish).2 = _
    unfold Session.finish
    rw [hstill]

/-- A spawned task that cancels itself as it runs leaves the books, and finishes. -/
example :
    let s := (fresh : Session Unit).after
      [.spawn (), .raise 0, .advance .zero, .proceed 0, .cancel 0]
    s.executor.tracked = [] ∧ (s.perform .finish).2 = .ended 0 := ⟨rfl, rfl⟩

end Session

end Cadence.Executor
