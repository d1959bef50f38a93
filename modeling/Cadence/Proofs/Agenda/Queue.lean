import Cadence.Agenda
import Cadence.Proofs.Labelled
import Cadence.Timer
import Mathlib.Data.List.Perm.Basic

/-! # The queue of an agenda

The queue is ordered by deadline and order of scheduling, the index lists exactly
the queued tasks, numbers and orders only grow, and nothing that waits is overdue.
Every operation keeps this, so a task starts with the time at its own deadline.
-/

namespace Cadence

namespace Span

theorem le_refl (a : Span) : a ≤ a := Nat.le_refl _

theorem le_trans {a b c : Span} (hab : a ≤ b) (hbc : b ≤ c) : a ≤ c := Nat.le_trans hab hbc

theorem le_of_lt {a b : Span} (h : a < b) : a ≤ b := Nat.le_of_lt h

theorem not_lt {a b : Span} : ¬ a < b ↔ b ≤ a := Nat.not_lt

theorem le_antisymm {a b : Span} (hab : a ≤ b) (hba : b ≤ a) : a = b :=
  Span.ext (Nat.le_antisymm hab hba)

theorem max_eq_right {a b : Span} (h : a ≤ b) : a.max b = b := if_pos h

theorem max_eq_or (a b : Span) : a.max b = a ∨ a.max b = b := (ite_eq_or_eq _ _ _).symm

theorem le_max_left (a b : Span) : a ≤ a.max b := by
  unfold max
  split
  next h => exact h
  next => exact le_refl a

theorem le_add_right (a b : Span) : a ≤ a + b := by
  have ha := a.nanos_le
  rw [le_iff, nanos_add]
  omega

theorem add_sub_of_le {a b : Span} (h : a ≤ b) : a + (b - a) = b := by
  have hb := b.nanos_le
  rw [le_iff] at h
  apply Span.ext
  rw [nanos_add, nanos_sub]
  omega

@[simp] theorem add_zero (a : Span) : a + .zero = a := by
  have ha := a.nanos_le
  apply Span.ext
  rw [nanos_add, nanos_zero]
  omega

end Span

namespace Key

theorem lt_iff {a b : Key} :
    a < b ↔ a.deadline < b.deadline ∨ (a.deadline = b.deadline ∧ a.order < b.order) := Iff.rfl

theorem deadline_le_of_lt {a b : Key} (h : a < b) : a.deadline ≤ b.deadline := by
  rcases h with h | ⟨h, _⟩
  · exact Span.le_of_lt h
  · exact h ▸ Span.le_refl _

theorem lt_irrefl (a : Key) : ¬ a < a := by
  rintro (h | ⟨_, h⟩)
  · exact Nat.lt_irrefl _ h
  · exact Nat.lt_irrefl _ h

theorem lt_trans {a b c : Key} (hab : a < b) (hbc : b < c) : a < c := by
  rcases hab with hab | ⟨hab, hab'⟩ <;> rcases hbc with hbc | ⟨hbc, hbc'⟩
  · exact Or.inl (Nat.lt_trans hab hbc)
  · exact Or.inl (hbc ▸ hab)
  · exact Or.inl (hab ▸ hbc)
  · exact Or.inr ⟨hab.trans hbc, Nat.lt_trans hab' hbc'⟩

/-- A key that was handed out earlier stands first unless its deadline is later. -/
theorem lt_of_not_lt {a b : Key} (horder : b.order < a.order) (h : ¬ a < b) : b < a := by
  rw [lt_iff, not_or] at h
  by_cases heq : b.deadline = a.deadline
  · exact Or.inr ⟨heq, horder⟩
  · have hle := Span.not_lt.mp h.1
    refine Or.inl (Nat.lt_of_le_of_ne hle ?_)
    exact fun hnanos => heq (Span.ext hnanos)

/-- A key with no earlier deadline stands behind if it was handed out later. -/
theorem lt_of_deadline_le {a b : Key} (hdeadline : a.deadline ≤ b.deadline)
    (horder : a.order < b.order) : a < b := by
  rcases Nat.lt_or_eq_of_le hdeadline with hlt | heq
  · exact Or.inl hlt
  · exact Or.inr ⟨Span.ext heq, horder⟩

end Key

namespace Agenda

variable {τ : Type}

/-! ## Insertion -/

theorem insert_perm (e : Entry τ) (queue : List (Entry τ)) :
    (insert e queue).Perm (e :: queue) := by
  induction queue with
  | nil => exact List.Perm.refl _
  | cons x rest ih =>
      unfold insert
      split
      · exact List.Perm.refl _
      · exact (ih.cons x).trans (List.Perm.swap e x rest)

/-- A new entry does not show where nothing is read off it. -/
theorem filterMap_insert {α : Type} {f : Entry τ → Option α} {e : Entry τ} (h : f e = none)
    (queue : List (Entry τ)) : (insert e queue).filterMap f = queue.filterMap f := by
  induction queue with
  | nil => simp [insert, h]
  | cons x rest ih =>
      unfold insert
      split
      · simp [List.filterMap_cons, h]
      · simp [List.filterMap_cons, ih]

theorem insert_ascending (e : Entry τ) {queue : List (Entry τ)}
    (hqueue : queue.Pairwise (·.key < ·.key)) (horder : ∀ x ∈ queue, x.key.order < e.key.order) :
    (insert e queue).Pairwise (·.key < ·.key) := by
  induction queue with
  | nil => exact List.pairwise_singleton _ _
  | cons x rest ih =>
      obtain ⟨hx, hrest⟩ := List.pairwise_cons.mp hqueue
      unfold insert
      split
      next hlt =>
        refine List.pairwise_cons.mpr ⟨?_, hqueue⟩
        intro y hy
        rcases List.mem_cons.mp hy with rfl | hy
        · exact hlt
        · exact Key.lt_trans hlt (hx y hy)
      next hlt =>
        -- equal deadlines leave the older entry in front
        refine List.pairwise_cons.mpr ⟨?_, ih hrest fun y hy =>
          horder y (List.mem_cons_of_mem x hy)⟩
        intro y hy
        rcases List.mem_cons.mp ((insert_perm e rest).mem_iff.mp hy) with rfl | hy
        · exact Key.lt_of_not_lt (horder x List.mem_cons_self) hlt
        · exact hx y hy

/-! ## Soundness -/

/-- The entry of a queued task in the index. -/
def Entry.label (e : Entry τ) : TaskId × Key := (e.id, e.key)

/-- The state of an agenda that was only used through its operations. -/
structure Sound (a : Agenda τ) : Prop where
  ascending : a.queue.Pairwise (·.key < ·.key)
  index : a.keys.Perm (a.queue.map Entry.label)
  ids_nodup : (a.queue.map Entry.id).Nodup
  id_lt : ∀ e ∈ a.queue, e.id < a.nextId
  order_lt : ∀ e ∈ a.queue, e.key.order < a.nextOrder
  not_overdue : ∀ e ∈ a.queue, a.elapsed ≤ e.key.deadline

theorem sound_empty : Sound ({} : Agenda τ) where
  ascending := List.Pairwise.nil
  index := List.Perm.refl _
  ids_nodup := List.nodup_nil
  id_lt := by simp
  order_lt := by simp
  not_overdue := by simp

theorem Sound.keys_nodup {a : Agenda τ} (h : a.Sound) : (a.keys.map Prod.fst).Nodup := by
  have hperm := h.index.map Prod.fst
  rw [List.map_map] at hperm
  exact hperm.nodup_iff.mpr h.ids_nodup

/-- The entries of a queue are told apart by their numbers. -/
theorem Sound.eq_of_id_eq {a : Agenda τ} (h : a.Sound) {e f : Entry τ} (he : e ∈ a.queue)
    (hf : f ∈ a.queue) (hid : e.id = f.id) : e = f :=
  List.inj_on_of_nodup_map h.ids_nodup he hf hid

theorem Sound.queue_keys_nodup {a : Agenda τ} (h : a.Sound) : (a.queue.map Entry.key).Nodup := by
  refine List.pairwise_map.mpr (h.ascending.imp ?_)
  intro x y hlt heq
  exact Key.lt_irrefl _ (heq ▸ hlt)

/-! ## Scheduling -/

/-- The entry that scheduling adds. -/
def entryFor (a : Agenda τ) (delay : Span) (task : τ) : Entry τ :=
  ⟨⟨a.elapsed + delay, a.nextOrder⟩, a.nextId, task⟩

theorem schedule_queue_perm (a : Agenda τ) (delay : Span) (task : τ) :
    (a.schedule delay task).2.queue.Perm (a.entryFor delay task :: a.queue) :=
  insert_perm _ _

/-- What is read off the queue gains what is read off the new entry. -/
theorem filterMap_schedule {α : Type} (f : Entry τ → Option α) (a : Agenda τ) (delay : Span)
    (task : τ) : ((a.schedule delay task).2.queue.filterMap f).Perm
      ((f (a.entryFor delay task)).toList ++ a.queue.filterMap f) := by
  apply ((a.schedule_queue_perm delay task).filterMap f).trans
  rw [List.filterMap_cons]
  cases f (a.entryFor delay task) <;> exact List.Perm.refl _

@[simp] theorem schedule_elapsed (a : Agenda τ) (delay : Span) (task : τ) :
    (a.schedule delay task).2.elapsed = a.elapsed := rfl

@[simp] theorem schedule_id (a : Agenda τ) (delay : Span) (task : τ) :
    (a.schedule delay task).1 = a.nextId := rfl

theorem mem_schedule {a : Agenda τ} {delay : Span} {task : τ} {e : Entry τ} :
    e ∈ (a.schedule delay task).2.queue ↔ e = a.entryFor delay task ∨ e ∈ a.queue := by
  rw [(a.schedule_queue_perm delay task).mem_iff, List.mem_cons]

theorem Sound.schedule {a : Agenda τ} (h : a.Sound) (delay : Span) (task : τ) :
    (a.schedule delay task).2.Sound where
  ascending := insert_ascending _ h.ascending h.order_lt
  index := (h.index.cons _).trans
    ((a.schedule_queue_perm delay task).map Entry.label).symm
  ids_nodup := by
    refine ((a.schedule_queue_perm delay task).map Entry.id).nodup_iff.mpr
      (List.nodup_cons.mpr ⟨?_, h.ids_nodup⟩)
    intro hmem
    obtain ⟨e, he, hid⟩ := List.mem_map.mp hmem
    exact Nat.lt_irrefl _ (hid ▸ h.id_lt e he)
  id_lt e he := by
    rcases mem_schedule.mp he with rfl | he
    · exact Nat.lt_succ_self _
    · exact Nat.lt_succ_of_lt (h.id_lt e he)
  order_lt e he := by
    rcases mem_schedule.mp he with rfl | he
    · exact Nat.lt_succ_self _
    · exact Nat.lt_succ_of_lt (h.order_lt e he)
  not_overdue e he := by
    rcases mem_schedule.mp he with rfl | he
    · exact Span.le_add_right _ _
    · exact h.not_overdue e he

/-! ## Taking back -/

theorem Sound.lookup_eq_some_iff {a : Agenda τ} (h : a.Sound) {id : TaskId} {key : Key} :
    a.keys.lookup id = some key ↔ ∃ e ∈ a.queue, e.id = id ∧ e.key = key := by
  have hmem : (id, key) ∈ a.keys ↔ ∃ e ∈ a.queue, e.id = id ∧ e.key = key := by
    rw [h.index.mem_iff, List.mem_map]
    simp [Entry.label]
  rw [← hmem, Labelled.lookup_eq_some_iff h.keys_nodup]

/-- Taking a task back removes the task of that number and no other. -/
theorem Sound.cancel_queue {a : Agenda τ} (h : a.Sound) (id : TaskId) :
    (a.cancel id).queue = a.queue.filter (·.id ≠ id) := by
  unfold cancel
  cases hlookup : a.keys.lookup id with
  | none =>
      refine (List.filter_eq_self.mpr fun e he => ?_).symm
      have hnone : ¬ ∃ f ∈ a.queue, f.id = id ∧ f.key = e.key :=
        h.lookup_eq_some_iff.not.mp (by rw [hlookup]; simp)
      simpa using fun hid => hnone ⟨e, he, hid, rfl⟩
  | some key =>
      obtain ⟨e, he, hid, hkey⟩ := h.lookup_eq_some_iff.mp hlookup
      apply (Labelled.eraseP_eq_filter h.queue_keys_nodup key).trans
      apply List.filter_congr
      intro f hf
      -- the queue is cleared by key and the index by number; both name one entry
      have hiff : f.key = key ↔ f.id = id := by
        constructor
        · intro heq
          have hfe := List.inj_on_of_nodup_map h.queue_keys_nodup hf he (heq.trans hkey.symm)
          rw [hfe, hid]
        · intro heq
          have hfe := h.eq_of_id_eq hf he (heq.trans hid.symm)
          rw [hfe, hkey]
      simp [hiff]

@[simp] theorem cancel_elapsed (a : Agenda τ) (id : TaskId) :
    (a.cancel id).elapsed = a.elapsed := by
  unfold cancel
  split <;> rfl

@[simp] theorem cancel_nextId (a : Agenda τ) (id : TaskId) :
    (a.cancel id).nextId = a.nextId := by
  unfold cancel
  split <;> rfl

@[simp] theorem cancel_nextOrder (a : Agenda τ) (id : TaskId) :
    (a.cancel id).nextOrder = a.nextOrder := by
  unfold cancel
  split <;> rfl

theorem Sound.cancel_keys {a : Agenda τ} (h : a.Sound) (id : TaskId) :
    (a.cancel id).keys = a.keys.filter (·.1 ≠ id) := by
  unfold cancel
  cases hlookup : a.keys.lookup id with
  | none =>
      refine (List.filter_eq_self.mpr fun p hp => ?_).symm
      have hne : p.1 ≠ id := by
        rintro rfl
        exact Labelled.lookup_eq_none_iff.mp hlookup p.2 hp
      simpa using hne
  | some key => exact Labelled.eraseP_eq_filter h.keys_nodup id

theorem Sound.mem_cancel {a : Agenda τ} (h : a.Sound) {id : TaskId} {e : Entry τ} :
    e ∈ (a.cancel id).queue ↔ e ∈ a.queue ∧ e.id ≠ id := by
  rw [h.cancel_queue, List.mem_filter]
  simp

theorem Sound.cancel {a : Agenda τ} (h : a.Sound) (id : TaskId) : (a.cancel id).Sound where
  ascending := by
    rw [h.cancel_queue]
    exact h.ascending.filter _
  index := by
    rw [h.cancel_queue, h.cancel_keys]
    apply (h.index.filter _).trans
    rw [List.filter_map]
    exact List.Perm.refl _
  ids_nodup := by
    rw [h.cancel_queue]
    exact h.ids_nodup.sublist (List.filter_sublist.map _)
  id_lt e he := by
    rw [cancel_nextId]
    exact h.id_lt e (h.mem_cancel.mp he).1
  order_lt e he := by
    rw [cancel_nextOrder]
    exact h.order_lt e (h.mem_cancel.mp he).1
  not_overdue e he := by
    rw [cancel_elapsed]
    exact h.not_overdue e (h.mem_cancel.mp he).1

/-! ## Turns -/

theorem popDue_eq_some_iff {a b : Agenda τ} {limit : Span} {e : Entry τ} :
    a.popDue limit = some (e, b) ↔ ∃ rest, a.queue = e :: rest ∧ e.key.deadline ≤ limit ∧
      b = { a with queue := rest, keys := a.keys.eraseP (·.1 = e.id) } := by
  unfold popDue
  cases a.queue with
  | nil => simp
  | cons x rest =>
      by_cases hdue : limit < x.key.deadline
      · simp only [if_pos hdue, reduceCtorEq, List.cons.injEq, false_iff]
        rintro ⟨_, ⟨rfl, _⟩, hle, _⟩
        exact Span.not_lt.mpr hle hdue
      · simp only [if_neg hdue, Option.some.injEq, Prod.mk.injEq, List.cons.injEq]
        constructor
        · rintro ⟨rfl, rfl⟩
          exact ⟨rest, ⟨rfl, rfl⟩, Span.not_lt.mp hdue, rfl⟩
        · rintro ⟨_, ⟨rfl, rfl⟩, _, rfl⟩
          exact ⟨rfl, rfl⟩

/-- The only task that waits is the one that comes up. -/
theorem popDue_of_singleton {a b : Agenda τ} {limit : Span} {e found : Entry τ}
    (hqueue : a.queue = [e]) (hpop : a.popDue limit = some (found, b)) :
    found = e ∧ b.queue = [] := by
  obtain ⟨rest, hrest, _, rfl⟩ := popDue_eq_some_iff.mp hpop
  exact List.cons.inj (hrest.symm.trans hqueue)

/-- Where nothing is due, every task waits for a later time. -/
theorem Sound.lt_of_popDue_eq_none {a : Agenda τ} (h : a.Sound) {limit : Span}
    (hnone : a.popDue limit = none) {e : Entry τ} (he : e ∈ a.queue) :
    limit < e.key.deadline := by
  unfold popDue at hnone
  cases hqueue : a.queue with
  | nil => simp [hqueue] at he
  | cons x rest =>
      rw [hqueue] at hnone he
      have hdue : limit < x.key.deadline := by
        by_contra hdue
        simp [if_neg hdue] at hnone
      have hascending := h.ascending
      rw [hqueue] at hascending
      rcases List.mem_cons.mp he with rfl | he
      · exact hdue
      · have hle := Key.deadline_le_of_lt ((List.pairwise_cons.mp hascending).1 e he)
        exact Nat.lt_of_lt_of_le hdue hle

/-- What is read off the queue loses what is read off the first entry. -/
theorem filterMap_of_popDue {α : Type} (f : Entry τ → Option α) {a b : Agenda τ} {limit : Span}
    {e : Entry τ} (hpop : a.popDue limit = some (e, b)) :
    a.queue.filterMap f = (f e).toList ++ b.queue.filterMap f := by
  obtain ⟨rest, hqueue, _, rfl⟩ := popDue_eq_some_iff.mp hpop
  rw [hqueue, List.filterMap_cons]
  cases f e <;> rfl

/-- The agenda once a task has been taken out of its queue to run. -/
def started (a : Agenda τ) (e : Entry τ) : Agenda τ :=
  { a with elapsed := a.elapsed.max e.key.deadline }

/-- A task starts with the time at its deadline. -/
theorem Sound.started_elapsed {a b : Agenda τ} (h : a.Sound) {limit : Span} {e : Entry τ}
    (hpop : a.popDue limit = some (e, b)) : (b.started e).elapsed = e.key.deadline := by
  obtain ⟨rest, hqueue, _, rfl⟩ := popDue_eq_some_iff.mp hpop
  exact Span.max_eq_right (h.not_overdue e (by simp [hqueue]))

theorem Sound.started {a b : Agenda τ} (h : a.Sound) {limit : Span} {e : Entry τ}
    (hpop : a.popDue limit = some (e, b)) : (b.started e).Sound := by
  have helapsed := h.started_elapsed hpop
  obtain ⟨rest, hqueue, _, rfl⟩ := popDue_eq_some_iff.mp hpop
  have hascending := h.ascending
  have hids := h.ids_nodup
  rw [hqueue] at hascending hids
  have hmem : ∀ x ∈ rest, x ∈ a.queue := fun x hx => hqueue ▸ List.mem_cons_of_mem e hx
  refine ⟨(List.pairwise_cons.mp hascending).2, ?_, (List.nodup_cons.mp hids).2,
    fun x hx => h.id_lt x (hmem x hx), fun x hx => h.order_lt x (hmem x hx), ?_⟩
  · have hindex := h.index
    rw [hqueue] at hindex
    have hkeys := h.keys_nodup
    show (a.keys.eraseP (·.1 = e.id)).Perm _
    rw [Labelled.eraseP_eq_filter hkeys]
    apply (hindex.filter _).trans
    rw [List.map_cons, List.filter_cons_of_neg (by simp [Entry.label])]
    -- numbers are unique, so the key of no other task is thrown away
    refine List.Perm.of_eq (List.filter_eq_self.mpr ?_)
    intro p hp
    obtain ⟨x, hx, rfl⟩ := List.mem_map.mp hp
    have hne : x.id ≠ e.id := fun heq =>
      (List.nodup_cons.mp hids).1 (heq ▸ List.mem_map_of_mem hx)
    exact decide_eq_true hne
  · intro x hx
    rw [helapsed]
    exact Key.deadline_le_of_lt ((List.pairwise_cons.mp hascending).1 x hx)

/-- A drive that sets the time at its end sets it to its own limit. -/
def Drive.Aimed (d : Drive) : Prop := ∀ t, d.settle = some t → t = d.limit

theorem depart_aimed {a : Agenda τ} {t : Travel} {d : Drive} (h : a.depart t = .inl d) :
    d.Aimed := by
  intro time htime
  cases t with
  | advance distance =>
      cases h
      exact (Option.some.inj htime).symm
  | runUntilIdle =>
      cases h
      cases htime
  | fastForward =>
      simp only [depart] at h
      split at h
      · cases h
      · cases h
        exact (Option.some.inj htime).symm

/-- The target of a drive is not in the past when it starts. -/
theorem elapsed_le_of_depart {a : Agenda τ} {t : Travel} {drive : Drive}
    (h : a.depart t = .inl drive) : a.elapsed ≤ drive.limit := by
  cases t with
  | advance distance =>
      cases h
      exact Span.le_add_right _ _
  | runUntilIdle =>
      cases h
      exact Span.le_refl _
  | fastForward =>
      simp only [depart] at h
      split at h
      · cases h
      · cases h
        exact Span.le_add_right _ _

/-- The agenda once a drive has ended. -/
def settled (a : Agenda τ) (d : Drive) : Agenda τ :=
  { a with elapsed := d.settle.getD a.elapsed }

theorem Sound.settled {a : Agenda τ} (h : a.Sound) {d : Drive} (hd : d.Aimed)
    (hnone : a.popDue d.limit = none) : (a.settled d).Sound where
  ascending := h.ascending
  index := h.index
  ids_nodup := h.ids_nodup
  id_lt := h.id_lt
  order_lt := h.order_lt
  not_overdue e he := by
    show d.settle.getD a.elapsed ≤ _
    cases hsettle : d.settle with
    | none => exact h.not_overdue e he
    | some time =>
        rw [hd time hsettle]
        exact Span.le_of_lt (h.lt_of_popDue_eq_none hnone he)

theorem turn_of_popDue_eq_some {a b : Agenda τ} {d : Drive} {e : Entry τ}
    (h : a.popDue d.limit = some (e, b)) :
    a.turn d = .run e.task [.runningTask .agenda e.id] (b.started e)
      { d with ran := d.ran + 1 } := by
  simp only [turn, h]
  rfl

theorem turn_of_popDue_eq_none {a : Agenda τ} {d : Drive} (h : a.popDue d.limit = none) :
    a.turn d = .over d.arrival (a.settled d) := by
  simp only [turn, h]
  rfl

end Agenda

/-! ## Timers -/

namespace OneShot

variable {τ : Type}

/-- Stopping a timer leaves the time alone, as it only takes a task back. -/
theorem elapsed_stop (t : OneShot) (a : Agenda τ) : (t.stop a).2.elapsed = a.elapsed := by
  unfold stop
  cases t.pending with
  | none => rfl
  | some id => exact a.cancel_elapsed id

theorem nextId_stop (t : OneShot) (a : Agenda τ) : (t.stop a).2.nextId = a.nextId := by
  unfold stop
  cases t.pending with
  | none => rfl
  | some id => exact a.cancel_nextId id

theorem sound_stop (t : OneShot) {a : Agenda τ} (h : a.Sound) : (t.stop a).2.Sound := by
  unfold stop
  cases t.pending with
  | none => exact h
  | some id => exact h.cancel id

end OneShot

end Cadence
