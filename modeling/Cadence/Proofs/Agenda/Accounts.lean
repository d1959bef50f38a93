import Cadence.Proofs.Agenda.Run

/-! # The accounts of an agenda

Every number that an agenda hands out is pending, or its task was started, or it was taken
back, and only one of these. Each move keeps the account: it hands out a number that is
pending from then on, or it moves one number from those that are pending to those that ran or
were taken back, or it moves none. So what is pending can be counted, and whoever takes back a
task finds it by its number, or finds that there is nothing to take back.
-/

namespace Cadence.Agenda

variable {τ : Type}

/-! ## The index and the queue -/

/-- The task at a place of the queue. -/
def entry? (a : Agenda τ) (key : Key) : Option (Entry τ) := a.queue.find? (·.key = key)

theorem Sound.entry?_eq_some_iff {a : Agenda τ} (h : a.Sound) {key : Key} {e : Entry τ} :
    a.entry? key = some e ↔ e ∈ a.queue ∧ e.key = key :=
  Labelled.find?_eq_some_iff h.queue_keys_nodup

/-- The index is the inverse of the queue. It leads from a number to a place exactly if the task
at that place has the number; no place is taken twice, and no number is listed twice. -/
structure Indexed (a : Agenda τ) : Prop where
  lookup_iff : ∀ id key, a.keys.lookup id = some key ↔ (a.entry? key).map Entry.id = some id
  entry?_key : ∀ e ∈ a.queue, a.entry? e.key = some e
  numbers_nodup : (a.keys.map Prod.fst).Nodup

theorem Sound.indexed {a : Agenda τ} (h : a.Sound) : a.Indexed where
  lookup_iff id key := by
    rw [h.lookup_eq_some_iff, Option.map_eq_some_iff]
    simp only [h.entry?_eq_some_iff]
    constructor
    · rintro ⟨e, he, hid, hkey⟩
      exact ⟨e, ⟨he, hkey⟩, hid⟩
    · rintro ⟨e, ⟨he, hkey⟩, hid⟩
      exact ⟨e, he, hid, hkey⟩
  entry?_key e he := h.entry?_eq_some_iff.mpr ⟨he, rfl⟩
  numbers_nodup := h.keys_nodup

/-- The numbers that are pending, in the order in which their tasks are due. -/
def numbers (a : Agenda τ) : List TaskId := a.queue.map Entry.id

/-- The agenda without the task of a number. -/
def without (a : Agenda τ) (id : TaskId) : Agenda τ :=
  { a with queue := a.queue.filter (·.id ≠ id), keys := a.keys.filter (·.1 ≠ id) }

/-- Taking a task back takes it out of the queue and the index, and nothing else. -/
theorem Sound.cancel_eq {a : Agenda τ} (h : a.Sound) (id : TaskId) :
    a.cancel id = a.without id := by
  have hqueue := h.cancel_queue id
  have hkeys := h.cancel_keys id
  have helapsed := a.cancel_elapsed id
  have hid := a.cancel_nextId id
  have horder := a.cancel_nextOrder id
  unfold without
  cases hcancel : a.cancel id
  simp_all

/-- A pending number is taken off once. -/
theorem Sound.perm_numbers {a : Agenda τ} (h : a.Sound) {id : TaskId} (hid : id ∈ a.numbers) :
    (id :: (a.cancel id).numbers).Perm a.numbers := by
  obtain ⟨e, he, rfl⟩ := List.mem_map.mp hid
  have hperm := (Labelled.perm_cons_eraseP h.ids_nodup he).map Entry.id
  rw [Labelled.eraseP_eq_filter h.ids_nodup, ← h.cancel_queue] at hperm
  exact hperm

/-- A number that is not pending has no task to take back. -/
theorem Sound.cancel_of_not_mem {a : Agenda τ} (h : a.Sound) {id : TaskId}
    (hid : id ∉ a.numbers) : a.cancel id = a := by
  have hlookup : a.keys.lookup id = none := by
    refine Option.eq_none_iff_forall_not_mem.mpr fun key hkey => hid ?_
    obtain ⟨e, he, rfl, -⟩ := h.lookup_eq_some_iff.mp hkey
    exact List.mem_map_of_mem he
  unfold Agenda.cancel
  rw [hlookup]

namespace Session

/-! ## The accounts -/

/-- What is told of some moves, in their order. -/
def told {α : Type} (tell : Session τ → Move τ → Option α) (s : Session τ) :
    List (Move τ) → List α
  | [] => []
  | m :: rest => (tell s m).toList ++ (s.perform m).1.told tell rest

/-- The number that a move hands out. -/
def issue? (s : Session τ) (m : Move τ) : Option TaskId :=
  match (s.perform m).2 with
  | .scheduled id => some id
  | _ => none

/-- The number of the task that a move starts, as it is logged. -/
def run? (s : Session τ) (m : Move τ) : Option TaskId :=
  match (s.perform m).2 with
  | .started _ [.runningTask _ id] => some id
  | _ => none

/-- The pending number that a move takes back. -/
def withdrawal? (s : Session τ) : Move τ → Option TaskId
  | .cancel id => if id ∈ s.agenda.numbers then some id else none
  | _ => none

theorem told_concat {α : Type} (tell : Session τ → Move τ → Option α) (s : Session τ)
    (moves : List (Move τ)) (m : Move τ) :
    s.told tell (moves ++ [m]) = s.told tell moves ++ (tell (s.after moves) m).toList := by
  induction moves generalizing s with
  | nil => simp [told, after]
  | cons first rest ih =>
      rw [List.cons_append, told, ih, told, List.append_assoc]
      rfl

/-! ## One move -/

theorem agenda_travel (s : Session τ) (t : Travel) :
    (s.perform (.travel t)).1.agenda = s.agenda := by
  unfold Session.perform
  dsimp only
  split <;> rfl

theorem agenda_finish (s : Session τ) : (s.perform .finish).1.agenda = s.agenda := by
  unfold Session.perform
  dsimp only
  split <;> rfl

/-- Scheduling hands out the next number, and nothing else hands out any. -/
theorem issue?_eq (s : Session τ) (m : Move τ) :
    s.issue? m = if m.isSchedule then some s.agenda.nextId else none := by
  cases m with
  | schedule delay task => rfl
  | cancel id => rfl
  | travel t =>
      unfold issue? Session.perform
      dsimp only
      cases s.agenda.depart t <;> rfl
  | finish =>
      obtain ⟨agenda, frames⟩ := s
      match frames with
      | [] => rfl
      | .working :: _ => rfl
      | .travelling _ :: _ => rfl
  | proceed =>
      unfold issue?
      cases s.proceeds with
      | starts drive rest e b before due out => rw [out]; rfl
      | returns drive rest before idle out => rw [out]; rfl
      | rests still out => rw [out]; rfl

theorem run?_eq (s : Session τ) (m : Move τ) : s.run? m = (s.start? m).map Entry.id := by
  unfold run?
  cases hstart : s.start? m with
  | some e =>
      obtain ⟨drive, rest, b, rfl, _, _, out⟩ := start_cases hstart
      rw [out]
      rfl
  | none =>
      split
      next task _ id hsignal =>
        obtain ⟨e, he⟩ := exists_start hsignal
        cases hstart.symm.trans he
      next => rfl

/-- The numbers that are pending after a move and those that it took off are the numbers that
were pending before it and the one that it handed out. -/
theorem Sound.perm_perform {s : Session τ} (h : s.Sound) (m : Move τ) :
    ((s.perform m).1.agenda.numbers ++ ((s.run? m).toList ++ (s.withdrawal? m).toList)).Perm
      (s.agenda.numbers ++ (s.issue? m).toList) := by
  rw [run?_eq]
  cases m with
  | schedule delay task =>
      have hqueue := (s.agenda.schedule_queue_perm delay task).map Entry.id
      exact ((List.Perm.of_eq (List.append_nil _)).trans hqueue).trans
        (List.perm_append_singleton _ _).symm
  | cancel id =>
      show ((s.agenda.cancel id).numbers ++ (s.withdrawal? (.cancel id)).toList).Perm
        (s.agenda.numbers ++ [])
      rw [List.append_nil]
      by_cases hid : id ∈ s.agenda.numbers
      · rw [show s.withdrawal? (.cancel id) = some id from if_pos hid]
        exact (List.perm_append_singleton _ _).trans (h.agenda.perm_numbers hid)
      · rw [show s.withdrawal? (.cancel id) = none from if_neg hid,
          h.agenda.cancel_of_not_mem hid]
        exact List.Perm.of_eq (List.append_nil _)
  | travel t =>
      rw [agenda_travel, issue?_eq]
      exact List.Perm.refl _
  | finish =>
      rw [agenda_finish, issue?_eq]
      exact List.Perm.refl _
  | proceed =>
      rw [issue?_eq]
      cases s.proceeds with
      | starts drive rest e b before due out start =>
          obtain ⟨queue, hqueue, _, rfl⟩ := popDue_eq_some_iff.mp due
          rw [out, start]
          unfold numbers
          rw [hqueue]
          refine (List.perm_append_comm).trans ?_
          exact List.Perm.of_eq (List.append_nil _).symm
      | returns drive rest before idle out start =>
          rw [out, start]
          exact List.Perm.refl _
      | rests still out start =>
          rw [out, start]
          exact List.Perm.refl _

/-! ## Runs -/

theorem told_issue? (moves : List (Move τ)) :
    (fresh : Session τ).told issue? moves =
      List.range ((fresh : Session τ).after moves).agenda.nextId := by
  induction moves using List.reverseRecOn with
  | nil => rfl
  | append_singleton moves m ih =>
      rw [told_concat, ih, after_concat, (perform_counters _ m).1, issue?_eq]
      split
      · exact List.range_succ.symm
      · exact List.append_nil _

/-- The numbers that were handed out are those that are pending, those whose tasks were started
and those that were taken back. -/
theorem perm_told (moves : List (Move τ)) :
    (((fresh : Session τ).after moves).agenda.numbers ++
      ((fresh : Session τ).told run? moves ++ (fresh : Session τ).told withdrawal? moves)).Perm
        ((fresh : Session τ).told issue? moves) := by
  rw [List.perm_iff_count]
  intro id
  induction moves using List.reverseRecOn with
  | nil => rfl
  | append_singleton moves m ih =>
      have hmove := ((sound_fresh.after moves).perm_perform m).count_eq id
      rw [after_concat]
      simp only [told_concat, List.count_append] at ih hmove ⊢
      omega

/-- A number that was handed out is in one of the three accounts, and there it is once. -/
theorem count_told (moves : List (Move τ)) (id : TaskId) :
    ((fresh : Session τ).after moves).agenda.numbers.count id +
        ((fresh : Session τ).told run? moves).count id +
        ((fresh : Session τ).told withdrawal? moves).count id =
      if id ∈ (fresh : Session τ).told issue? moves then 1 else 0 := by
  have hnodup : ((fresh : Session τ).told issue? moves).Nodup :=
    told_issue? (τ := τ) moves ▸ List.nodup_range
  rw [← hnodup.count, ← (perm_told moves).count_eq, List.count_append, List.count_append,
    Nat.add_assoc]

theorem not_pending {moves : List (Move τ)} {id : TaskId}
    (hgone : id ∉ (fresh : Session τ).told issue? moves ∨
      id ∈ (fresh : Session τ).told run? moves ∨
      id ∈ (fresh : Session τ).told withdrawal? moves) :
    id ∉ ((fresh : Session τ).after moves).agenda.numbers := by
  intro hmem
  have honce := count_told moves id
  have hpending := List.count_pos_iff.mpr hmem
  rcases hgone with hnew | hran | hback
  · rw [if_neg hnew] at honce
    omega
  · have hstarted := List.count_pos_iff.mpr hran
    split at honce <;> omega
  · have htaken := List.count_pos_iff.mpr hback
    split at honce <;> omega

/-- What waits was scheduled, and has neither run nor been taken back. -/
theorem countP_isSchedule_eq (moves : List (Move τ)) :
    moves.countP Move.isSchedule = ((fresh : Session τ).after moves).agenda.pending +
      ((fresh : Session τ).told run? moves).length +
      ((fresh : Session τ).told withdrawal? moves).length := by
  have hlength := (perm_told moves).length_eq
  rw [told_issue?, List.length_range, List.length_append, List.length_append,
    (counters_after moves).1] at hlength
  rw [← hlength, Nat.add_assoc]
  exact congrArg (· + _) (List.length_map _)

/-- After any moves, whoever makes them, also while a task runs or drives the agenda itself: the
index is the inverse of the queue, numbers and places were handed out one by one, and nothing
that waits is overdue. Every number that was handed out is pending, or its task was started
once, or it was taken back, and only one of these. Taking back a number takes out its task if
it is pending, and does nothing at all for a number that was not handed out, that was taken
back or whose task was started, whether the task still runs or not. What is pending is what was
scheduled without what ran and what was taken back. -/
theorem numbers_are_accounted_for (moves : List (Move τ)) :
    let s := (fresh : Session τ).after moves
    let a := s.agenda
    let issued := (fresh : Session τ).told issue? moves
    let ran := (fresh : Session τ).told run? moves
    let withdrawn := (fresh : Session τ).told withdrawal? moves
    a.Indexed ∧
    (a.nextId = a.nextOrder ∧ issued = List.range a.nextId ∧
      ∀ e ∈ a.queue, e.id < a.nextId ∧ e.key.order < a.nextOrder) ∧
    (∀ e ∈ a.queue, a.elapsed ≤ e.key.deadline) ∧
    (∀ id, a.numbers.count id + ran.count id + withdrawn.count id =
      if id ∈ issued then 1 else 0) ∧
    (∀ id, s.perform (.cancel id) = ({ s with agenda := a.without id }, .quiet) ∧
      (id ∉ issued ∨ id ∈ ran ∨ id ∈ withdrawn → s.perform (.cancel id) = (s, .quiet))) ∧
    moves.countP Move.isSchedule = a.pending + ran.length + withdrawn.length := by
  intro s a issued ran withdrawn
  have hsound : a.Sound := (sound_fresh.after moves).agenda
  have hcancel : ∀ id, s.perform (.cancel id) = ({ s with agenda := a.cancel id }, .quiet) :=
    fun _ => rfl
  obtain ⟨hid, horder⟩ := counters_after moves
  refine ⟨hsound.indexed, ⟨hid.trans horder.symm, told_issue? moves, fun e he =>
    ⟨hsound.id_lt e he, hsound.order_lt e he⟩⟩, hsound.not_overdue, count_told moves,
    fun id => ⟨?_, fun hgone => ?_⟩, countP_isSchedule_eq moves⟩
  · rw [hcancel, hsound.cancel_eq]
  · rw [hcancel, hsound.cancel_of_not_mem (not_pending hgone)]

/-- A task that takes itself back while it runs takes nothing back. -/
example :
    let s := (fresh : Session Unit).after [.schedule .zero (), .travel .runUntilIdle, .proceed]
    s.frames.head? = some .working ∧ s.perform (.cancel 0) = (s, .quiet) := ⟨rfl, rfl⟩

end Session

end Cadence.Agenda
