import Cadence.Proofs.Recorded
import Cadence.Timer
import Mathlib.Data.List.Induction

/-! # When the tasks of a timer run

A timer takes its pending task back when it is stopped, but it does not rely on that: the
service may run the task all the same, at any later moment and in any order. Every start,
stop and drop begins a new generation, so of all the tasks that were ever handed over only
the one of the latest operation finds its own generation still current.
-/

namespace Cadence.OneShot

/-- What a timer hands to its service: a task, made for one generation. -/
structure Wrapped (α : Type) where
  generation : UInt64
  task : α

/-- A timer, its service, and whether somebody still holds the timer. -/
structure Session (σ α : Type) where
  timer : OneShot := {}
  service : Recorded σ (Wrapped α)
  held : Bool := true

/-- What happens to a timer. Whoever starts, stops or drops it may be one of its own tasks:
a task begins once the timer has let it through, and what it does comes after that. -/
inductive Move (σ α : Type)
  | start (delay : Span) (task : α)
  | stop
  | drop
  /-- The service runs what the `n`-th start handed to it, counted from zero. -/
  | run (n : Nat)
  /-- The service is used by others, or lets time go by. -/
  | pass (timers : σ)

namespace Move

variable {σ α : Type}

def isStart : Move σ α → Bool
  | start .. => true
  | _ => false

/-- A start or a stop. -/
def isUse : Move σ α → Bool
  | start .. | stop => true
  | _ => false

/-- An operation of whoever holds the timer. -/
def isOperation : Move σ α → Bool
  | start .. | stop | drop => true
  | _ => false

/-- The start whose task the service runs. -/
def run? : Move σ α → Option Nat
  | run n => some n
  | _ => none

end Move

/-! ## The latest operation -/

section Latest

variable {σ α : Type} {moves : List (Move σ α)} {m : Move σ α} {n n' : Nat} {task task' : α}

/-- The start with this number, which was given this task, is the latest operation. -/
def Latest (moves : List (Move σ α)) (n : Nat) (task : α) : Prop :=
  ∃ before delay rest, moves = before ++ .start delay task :: rest ∧ .drop ∉ before ∧
    before.countP Move.isStart = n ∧ ∀ m ∈ rest, m.isOperation = false

theorem latest_concat_of_not_operation (hm : m.isOperation = false) :
    Latest (moves ++ [m]) n task ↔ Latest moves n task := by
  constructor
  · rintro ⟨before, delay, rest, heq, hheld, hcount, hrest⟩
    rcases List.eq_nil_or_concat rest with rfl | ⟨rest, last, rfl⟩
    · obtain ⟨-, hlast⟩ := List.append_inj' heq rfl
      cases hlast
      cases hm
    · rw [List.concat_eq_append, ← List.cons_append, ← List.append_assoc] at heq
      obtain ⟨rfl, -⟩ := List.append_inj' heq rfl
      exact ⟨before, delay, rest, rfl, hheld, hcount, fun x hx => hrest x (by simp [hx])⟩
  · rintro ⟨before, delay, rest, rfl, hheld, hcount, hrest⟩
    refine ⟨before, delay, rest ++ [m], by simp, hheld, hcount, fun x hx => ?_⟩
    rcases List.mem_append.mp hx with hx | hx
    · exact hrest x hx
    · exact List.mem_singleton.mp hx ▸ hm

/-- After an operation nothing but this operation is the latest. -/
theorem latest_concat_of_operation (hm : m.isOperation = true) :
    Latest (moves ++ [m]) n task ↔
      ∃ delay, m = .start delay task ∧ .drop ∉ moves ∧ moves.countP Move.isStart = n := by
  constructor
  · rintro ⟨before, delay, rest, heq, hheld, hcount, hrest⟩
    rcases List.eq_nil_or_concat rest with rfl | ⟨rest, last, rfl⟩
    · obtain ⟨rfl, hlast⟩ := List.append_inj' heq rfl
      cases hlast
      exact ⟨delay, rfl, hheld, hcount⟩
    · rw [List.concat_eq_append, ← List.cons_append, ← List.append_assoc] at heq
      obtain ⟨-, hlast⟩ := List.append_inj' heq rfl
      cases hlast
      exact absurd (hrest m (by simp)) (by simp [hm])
  · rintro ⟨delay, rfl, hheld, hcount⟩
    exact ⟨moves, delay, [], rfl, hheld, hcount, nofun⟩

theorem Latest.unique (h : Latest moves n task) (h' : Latest moves n' task') :
    n = n' ∧ task = task' := by
  induction moves using List.reverseRecOn with
  | nil =>
      obtain ⟨before, _, _, heq, _⟩ := h
      cases before <;> cases heq
  | append_singleton moves m ih =>
      cases hm : m.isOperation with
      | false =>
          rw [latest_concat_of_not_operation hm] at h h'
          exact ih h h'
      | true =>
          obtain ⟨_, hstart, _, hcount⟩ := (latest_concat_of_operation hm).mp h
          obtain ⟨_, hstart', _, hcount'⟩ := (latest_concat_of_operation hm).mp h'
          cases hstart.symm.trans hstart'
          exact ⟨hcount.symm.trans hcount', rfl⟩

theorem Latest.lt (h : Latest moves n task) : n < moves.countP Move.isStart := by
  obtain ⟨before, delay, rest, rfl, -, rfl, -⟩ := h
  rw [List.countP_append, List.countP_cons_of_pos rfl]
  omega

/-- Whoever drops a timer does nothing with it any more, and it was not dropped before. -/
theorem Latest.drop_not_mem (h : Latest moves n task) : .drop ∉ moves := by
  obtain ⟨before, delay, rest, rfl, hheld, -, hrest⟩ := h
  intro hdrop
  rcases List.mem_append.mp hdrop with hdrop | hdrop
  · exact hheld hdrop
  · rcases List.mem_cons.mp hdrop with hdrop | hdrop
    · cases hdrop
    · exact absurd (hrest _ hdrop) nofun

end Latest

namespace Session

variable {σ α : Type} [TimerService σ (Wrapped α)]

/-- A new timer on a service. -/
def opening (timers : σ) : Session σ α := { service := { timers } }

/-- Makes a move. The task that begins is told, if one does. -/
def perform (s : Session σ α) : Move σ α → Session σ α × Option α
  | .start delay task =>
      if s.held then
        let (timer, service) := s.timer.start s.service delay (Wrapped.mk · task)
        ({ s with timer, service }, none)
      else (s, none)
  | .stop =>
      if s.held then
        let (timer, service) := s.timer.stop s.service
        ({ s with timer, service }, none)
      else (s, none)
  | .drop =>
      if s.held then
        let (timer, service) := s.timer.stop s.service
        ({ timer, service, held := false }, none)
      else (s, none)
  | .run n =>
      match s.service.handed[n]? with
      | none => (s, none)
      | some (_, wrapped) =>
          match s.timer.fire wrapped.generation with
          | none => (s, none)
          | some timer => ({ s with timer }, some wrapped.task)
  | .pass timers => ({ s with service := { s.service with timers } }, none)

/-- The session after some moves. -/
def after (s : Session σ α) (moves : List (Move σ α)) : Session σ α :=
  moves.foldl (fun s m => (s.perform m).1) s

/-- The start whose task begins in a move. -/
def begins (s : Session σ α) (m : Move σ α) : Option Nat :=
  if (s.perform m).2.isSome then m.run? else none

/-- The starts whose tasks begin in the course of some moves, in the order in which they do. -/
def begun (s : Session σ α) : List (Move σ α) → List Nat
  | [] => []
  | m :: rest => (s.begins m).toList ++ (s.perform m).1.begun rest

theorem after_append (s : Session σ α) (first second : List (Move σ α)) :
    s.after (first ++ second) = (s.after first).after second :=
  List.foldl_append

theorem after_concat (s : Session σ α) (moves : List (Move σ α)) (m : Move σ α) :
    s.after (moves ++ [m]) = ((s.after moves).perform m).1 :=
  s.after_append moves [m]

theorem begun_concat (s : Session σ α) (moves : List (Move σ α)) (m : Move σ α) :
    s.begun (moves ++ [m]) = s.begun moves ++ ((s.after moves).begins m).toList := by
  induction moves generalizing s with
  | nil => simp [begun, after]
  | cons first rest ih =>
      rw [List.cons_append, begun, begun, ih, List.append_assoc]
      rfl

/-- No task begins more often than the service runs it. -/
theorem begun_sublist (s : Session σ α) (moves : List (Move σ α)) :
    (s.begun moves).Sublist (moves.filterMap Move.run?) := by
  induction moves generalizing s with
  | nil => exact List.Sublist.refl _
  | cons m rest ih =>
      have hfirst : (s.begins m).toList.Sublist m.run?.toList := by
        unfold begins
        split
        · exact List.Sublist.refl _
        · exact List.nil_sublist _
      have hcons : (m :: rest).filterMap Move.run? = m.run?.toList ++ rest.filterMap Move.run? := by
        rw [List.filterMap_cons]
        cases m.run? <;> rfl
      rw [hcons]
      exact hfirst.append (ih _)

/-! ## One move -/

variable (s : Session σ α)

/-- What becomes of a timer that is held when it is started, stopped or dropped. -/
theorem perform_held {m : Move σ α} (hheld : s.held = true) (hm : m.isOperation = true) :
    (s.perform m).1.timer.generation = s.timer.generation + 1 ∧
      (s.perform m).1.timer.armed = m.isStart ∧ (s.perform m).1.held = m.isUse ∧
      (s.perform m).2 = none := by
  cases m with
  | start delay task => simp [perform, hheld, OneShot.start, OneShot.stop, Move.isStart, Move.isUse]
  | stop => simp [perform, hheld, OneShot.stop, Move.isStart, Move.isUse]
  | drop => simp [perform, hheld, OneShot.stop, Move.isStart, Move.isUse]
  | run n => cases hm
  | pass timers => cases hm

/-- Nobody operates a timer that is not held any more. -/
theorem perform_of_not_held {m : Move σ α} (hheld : s.held = false)
    (hm : m.isOperation = true) : s.perform m = (s, none) := by
  cases m with
  | start delay task => simp [perform, hheld]
  | stop => simp [perform, hheld]
  | drop => simp [perform, hheld]
  | run n => cases hm
  | pass timers => cases hm

/-- What a move hands to the service. -/
def hands : Move σ α → List (Span × Wrapped α)
  | .start delay task => if s.held then [(delay, ⟨s.timer.generation + 1, task⟩)] else []
  | _ => []

theorem handed_perform (m : Move σ α) :
    (s.perform m).1.service.handed = s.service.handed ++ s.hands m := by
  have hstop : (s.timer.stop s.service).2.handed = s.service.handed := by
    unfold OneShot.stop
    cases s.timer.pending <;> rfl
  cases m with
  | start delay task =>
      cases hheld : s.held with
      | false => simp [perform, hands, hheld]
      | true =>
          simp only [perform, hands, hheld, if_true]
          show (s.timer.stop s.service).2.handed ++ _ = _
          rw [hstop]
  | stop => cases hheld : s.held <;> simp [perform, hands, hheld, hstop]
  | drop => cases hheld : s.held <;> simp [perform, hands, hheld, hstop]
  | run n =>
      unfold perform hands
      dsimp only
      split
      · simp
      · split <;> simp
  | pass timers => simp [perform, hands]

/-- The service runs a task of the current generation, or to no effect. -/
theorem perform_run (n : Nat) :
    (∃ delay wrapped, s.service.handed[n]? = some (delay, wrapped) ∧
      wrapped.generation = s.timer.generation ∧ s.perform (.run n) =
        ({ s with timer := { s.timer with armed := false } }, some wrapped.task)) ∨
    ((∀ delay wrapped, s.service.handed[n]? = some (delay, wrapped) →
        wrapped.generation ≠ s.timer.generation) ∧ s.perform (.run n) = (s, none)) := by
  cases hhanded : s.service.handed[n]? with
  | none => exact .inr ⟨nofun, by simp [perform, hhanded]⟩
  | some found =>
      obtain ⟨delay, wrapped⟩ := found
      by_cases hgeneration : s.timer.generation = wrapped.generation
      · refine .inl ⟨delay, wrapped, rfl, hgeneration.symm, ?_⟩
        simp [perform, hhanded, OneShot.fire, hgeneration]
      · refine .inr ⟨fun _ _ heq => ?_, by simp [perform, hhanded, OneShot.fire, hgeneration]⟩
        cases heq
        exact fun h => hgeneration h.symm

/-- Only the service makes a task begin. -/
theorem exists_run_of_begins {m : Move σ α} {task : α} (h : (s.perform m).2 = some task) :
    ∃ n, m = .run n := by
  cases m with
  | run n => exact ⟨n, rfl⟩
  | start delay task => simp only [perform] at h; split at h <;> cases h
  | stop => simp only [perform] at h; split at h <;> cases h
  | drop => simp only [perform] at h; split at h <;> cases h
  | pass timers => cases h

/-- What is no operation leaves the generation alone, and whether the timer is held. -/
theorem perform_of_not_operation {m : Move σ α} (hm : m.isOperation = false) :
    (s.perform m).1.timer.generation = s.timer.generation ∧ (s.perform m).1.held = s.held := by
  cases m with
  | run n =>
      rcases s.perform_run n with ⟨_, _, _, _, hperform⟩ | ⟨_, hperform⟩ <;>
        exact hperform ▸ ⟨rfl, rfl⟩
  | pass timers => exact ⟨rfl, rfl⟩
  | start delay task => cases hm
  | stop => cases hm
  | drop => cases hm

/-! ## Generations -/

/-- A timer that is not held any more keeps its generation for good. -/
theorem generation_of_not_held {s : Session σ α} (hheld : s.held = false)
    (moves : List (Move σ α)) : (s.after moves).timer.generation = s.timer.generation := by
  induction moves generalizing s with
  | nil => rfl
  | cons m rest ih =>
      show ((s.perform m).1.after rest).timer.generation = _
      cases hm : m.isOperation with
      | true =>
          rw [s.perform_of_not_held hheld hm]
          exact ih hheld
      | false =>
          obtain ⟨hgeneration, hsame⟩ := s.perform_of_not_operation hm
          rw [ih (hsame.trans hheld), hgeneration]

/-- Each operation of a timer that is held moves its generation on by one. A drop is the last
of them, so there is at most one more than there are starts and stops. -/
theorem exists_generation {s : Session σ α} (hheld : s.held = true) (moves : List (Move σ α)) :
    ∃ k ≤ moves.countP Move.isUse + 1,
      (s.after moves).timer.generation = s.timer.generation + UInt64.ofNat k ∧
      (k = 0 ↔ ∀ m ∈ moves, m.isOperation = false) := by
  induction moves generalizing s with
  | nil => exact ⟨0, Nat.zero_le _, by simp [after], by simp⟩
  | cons m rest ih =>
      cases hm : m.isOperation with
      | false =>
          obtain ⟨hgeneration, hsame⟩ := s.perform_of_not_operation hm
          obtain ⟨k, hk, hafter, hzero⟩ := ih (hsame.trans hheld)
          refine ⟨k, ?_, hgeneration ▸ hafter, by simp [hzero, hm]⟩
          exact Nat.le_trans hk (Nat.succ_le_succ (List.sublist_cons_self m rest).countP_le)
      | true =>
          obtain ⟨hgeneration, -, hkept, -⟩ := s.perform_held hheld hm
          cases huse : m.isUse with
          | false =>
              -- the timer is dropped, and nothing counts after that
              refine ⟨1, Nat.le_add_left _ _, ?_, by simp [hm]⟩
              exact (generation_of_not_held (hkept.trans huse) rest).trans hgeneration
          | true =>
              obtain ⟨k, hk, hafter, -⟩ := ih (hkept.trans huse)
              refine ⟨k + 1, ?_, ?_, by simp [hm]⟩
              · rw [List.countP_cons_of_pos huse]
                exact Nat.succ_le_succ hk
              · show ((s.perform m).1.after rest).timer.generation = _
                rw [hafter, hgeneration, UInt64.ofNat_add, UInt64.add_assoc,
                  UInt64.add_comm (UInt64.ofNat k)]
                rfl

/-- Fewer than all the generations that there are leave no two of them equal. -/
theorem add_ofNat_eq_self_iff {generation : UInt64} {k : Nat} (hk : k < UInt64.size) :
    generation + UInt64.ofNat k = generation ↔ k = 0 := by
  rw [UInt64.add_eq_left, UInt64.ofNat_eq_iff_mod_eq_toNat]
  rw [show 2 ^ 64 = UInt64.size from rfl, Nat.mod_eq_of_lt hk]
  rfl

/-! ## Runs -/

section Runs

variable (timers : σ)

theorem held_iff (moves : List (Move σ α)) :
    ((opening timers).after moves).held = true ↔ .drop ∉ moves := by
  induction moves using List.reverseRecOn with
  | nil => simp [after, opening]
  | append_singleton moves m ih =>
      rw [after_concat, List.mem_append, not_or, ← ih, List.mem_singleton]
      cases hm : m.isOperation with
      | false =>
          rw [(perform_of_not_operation _ hm).2]
          have hdrop : .drop ≠ m := by
            rintro rfl
            cases hm
          simp [hdrop]
      | true =>
          cases hheld : ((opening timers).after moves).held with
          | false => simp [perform_of_not_held _ hheld hm, hheld]
          | true =>
              rw [(perform_held _ hheld hm).2.2.1]
              cases m <;> simp_all [Move.isUse, Move.isOperation]

/-- As long as the timer is held every start hands a task over. -/
theorem length_handed {moves : List (Move σ α)} (hheld : .drop ∉ moves) :
    ((opening timers).after moves).service.handed.length = moves.countP Move.isStart := by
  induction moves using List.reverseRecOn with
  | nil => rfl
  | append_singleton moves m ih =>
      rw [List.mem_append, not_or] at hheld
      have hbefore := (held_iff timers moves).mpr hheld.1
      rw [after_concat, handed_perform, List.length_append, ih hheld.1, List.countP_append,
        List.countP_singleton]
      cases m <;> simp [Move.isStart, hands, hbefore]

/-- What is handed over stays so. -/
theorem handed_after (s : Session σ α) (moves : List (Move σ α)) :
    s.service.handed <+: (s.after moves).service.handed := by
  induction moves generalizing s with
  | nil => exact List.prefix_refl _
  | cons m rest ih =>
      refine List.IsPrefix.trans ?_ (ih (s.perform m).1)
      rw [handed_perform]
      exact List.prefix_append _ _

/-- What a start hands over is made for the generation that it begins. -/
theorem handed_of_start {before : List (Move σ α)} (hheld : .drop ∉ before) (delay : Span)
    (task : α) (rest : List (Move σ α)) :
    ((opening timers).after (before ++ .start delay task :: rest)).service.handed[
      before.countP Move.isStart]? =
        some (delay, ⟨((opening timers).after before).timer.generation + 1, task⟩) := by
  have hbefore := (held_iff timers before).mpr hheld
  have hlength := length_handed timers hheld
  obtain ⟨more, hmore⟩ :=
    handed_after (((opening timers).after before).perform (.start delay task)).1 rest
  rw [after_append]
  show ((((opening timers).after before).perform _).1.after rest).service.handed[_]? = _
  rw [← hmore, handed_perform, ← hlength]
  simp [hands, hbefore]

/-- Whatever was handed over comes from a start. -/
theorem exists_start {moves : List (Move σ α)} {n : Nat} {delay : Span} {wrapped : Wrapped α}
    (h : ((opening timers).after moves).service.handed[n]? = some (delay, wrapped)) :
    ∃ before rest, moves = before ++ .start delay wrapped.task :: rest ∧ .drop ∉ before ∧
      before.countP Move.isStart = n := by
  induction moves using List.reverseRecOn with
  | nil => simp [after, opening] at h
  | append_singleton moves m ih =>
      rw [after_concat, handed_perform, List.getElem?_append] at h
      split at h
      · obtain ⟨before, rest, rfl, hheld, hcount⟩ := ih h
        exact ⟨before, rest ++ [m], by simp, hheld, hcount⟩
      next hlength =>
        -- it is handed over just now
        cases m with
        | start delay' task =>
            dsimp only [hands] at h
            split at h
            next hheld =>
              have hdrop := (held_iff timers moves).mp hheld
              rw [List.getElem?_singleton] at h
              split at h
              next hn =>
                cases h
                refine ⟨moves, [], rfl, hdrop, ?_⟩
                rw [← length_handed timers hdrop]
                omega
              next => cases h
            next => simp at h
        | _ => simp [hands] at h

/-- The task that the service runs begins exactly if its start is the latest operation. -/
theorem begins_iff {moves : List (Move σ α)} (hfew : moves.countP Move.isUse < UInt64.size)
    (n : Nat) (task : α) :
    (((opening timers).after moves).perform (.run n)).2 = some task ↔ Latest moves n task := by
  -- the start of what was handed over is the latest operation if no generation began after it
  have hcurrent : ∀ {before rest : List (Move σ α)} {delay : Span} {task : α},
      moves = before ++ .start delay task :: rest → .drop ∉ before →
      (((opening timers).after before).timer.generation + 1 =
        ((opening timers).after moves).timer.generation ↔
          ∀ m ∈ rest, m.isOperation = false) := by
    rintro before rest delay task rfl hheld
    have hbefore := (held_iff timers before).mpr hheld
    obtain ⟨hgeneration, -, hkept, -⟩ :=
      perform_held ((opening timers).after before) hbefore (m := .start delay task) rfl
    obtain ⟨k, hk, hafter, hzero⟩ := exists_generation (hkept.trans rfl) rest
    rw [hgeneration] at hafter
    rw [List.countP_append, List.countP_cons_of_pos rfl] at hfew
    rw [after_append, ← hzero, eq_comm]
    show (Session.after _ rest).timer.generation = _ ↔ _
    rw [hafter, add_ofNat_eq_self_iff (by omega)]
  rcases perform_run ((opening timers).after moves) n with
    ⟨delay, wrapped, hhanded, hgeneration, hperform⟩ | ⟨hstale, hperform⟩
  · obtain ⟨before, rest, hmoves, hheld, hcount⟩ := exists_start timers hhanded
    have hstart := handed_of_start timers hheld delay wrapped.task rest
    rw [← hmoves, hcount, hhanded] at hstart
    have hlatest : Latest moves n wrapped.task := by
      refine ⟨before, delay, rest, hmoves, hheld, hcount, (hcurrent hmoves hheld).mp ?_⟩
      rw [← hgeneration, (Prod.mk.inj (Option.some.inj hstart)).2]
    rw [hperform]
    constructor
    · rintro heq
      cases heq
      exact hlatest
    · exact fun h => congrArg some (hlatest.unique h).2
  · rw [hperform]
    refine iff_of_false nofun ?_
    rintro ⟨before, delay, rest, hmoves, hheld, hcount, hrest⟩
    have hstart := handed_of_start timers hheld delay task rest
    rw [← hmoves, hcount] at hstart
    exact hstale _ _ hstart ((hcurrent hmoves hheld).mpr hrest)

/-- Begun tasks are of starts that were made. -/
theorem lt_of_mem_begun {moves : List (Move σ α)} (hfew : moves.countP Move.isUse < UInt64.size)
    {n : Nat} (hn : n ∈ (opening timers).begun moves) : n < moves.countP Move.isStart := by
  induction moves using List.reverseRecOn with
  | nil => cases hn
  | append_singleton moves m ih =>
      rw [List.countP_append] at hfew ⊢
      rw [begun_concat] at hn
      rcases List.mem_append.mp hn with hn | hn
      · exact Nat.lt_of_lt_of_le (ih (by omega) hn) (Nat.le_add_right _ _)
      · unfold begins at hn
        split at hn
        next hbegins =>
          obtain ⟨task, htask⟩ := Option.isSome_iff_exists.mp hbegins
          obtain ⟨n', rfl⟩ := exists_run_of_begins _ htask
          obtain rfl : n = n' := by simpa [Move.run?] using hn
          exact Nat.lt_of_lt_of_le ((begins_iff timers (by omega) n task).mp htask).lt
            (Nat.le_add_right _ _)
        next => cases hn

/-- The latest operation is a start whose task has not begun. -/
def Awaits (moves : List (Move σ α)) : Prop :=
  ∃ n task, Latest moves n task ∧ n ∉ (opening timers).begun moves

/-- Right after an operation of a timer that is held, it runs if the operation was a start. -/
theorem awaits_concat_of_held {moves : List (Move σ α)} {m : Move σ α}
    (hfew : moves.countP Move.isUse < UInt64.size) (hdrop : .drop ∉ moves)
    (hm : m.isOperation = true) : Awaits timers (moves ++ [m]) ↔ m.isStart = true := by
  have hquiet := (perform_held _ ((held_iff timers moves).mpr hdrop) hm).2.2.2
  have hnone : ((opening timers).after moves).begins m = none := by simp [begins, hquiet]
  unfold Awaits
  rw [begun_concat, hnone, Option.toList_none, List.append_nil]
  simp only [latest_concat_of_operation hm]
  constructor
  · rintro ⟨n, task, ⟨delay, rfl, -⟩, -⟩
    rfl
  · intro hstart
    cases m with
    | start delay task =>
        exact ⟨_, task, ⟨delay, rfl, hdrop, rfl⟩, fun hmem =>
          Nat.lt_irrefl _ (lt_of_mem_begun timers hfew hmem)⟩
    | _ => cases hstart

theorem not_awaits_of_drop {moves : List (Move σ α)} (hdrop : .drop ∈ moves) :
    ¬ Awaits timers moves := by
  rintro ⟨n, task, hlatest, -⟩
  exact hlatest.drop_not_mem hdrop

/-- A timer runs exactly if the latest operation was a start whose task has not begun. -/
theorem isRunning_iff {moves : List (Move σ α)} (hfew : moves.countP Move.isUse < UInt64.size) :
    ((opening timers).after moves).timer.isRunning = true ↔ Awaits timers moves := by
  induction moves using List.reverseRecOn with
  | nil =>
      refine iff_of_false nofun ?_
      rintro ⟨n, task, h, -⟩
      exact absurd h.lt nofun
  | append_singleton moves m ih =>
      rw [List.countP_append] at hfew
      have ih := ih (by omega)
      rw [after_concat]
      cases hm : m.isOperation with
      | true =>
          by_cases hdrop : .drop ∈ moves
          · have hheld : ((opening timers).after moves).held = false := by
              rw [Bool.eq_false_iff, Ne, held_iff]
              exact not_not.mpr hdrop
            rw [perform_of_not_held _ hheld hm]
            exact iff_of_false (ih.not.mpr (not_awaits_of_drop timers hdrop))
              (not_awaits_of_drop timers (List.mem_append_left _ hdrop))
          · rw [awaits_concat_of_held timers (by omega) hdrop hm, isRunning,
              (perform_held _ ((held_iff timers moves).mpr hdrop) hm).2.1]
      | false =>
          unfold Awaits at ih ⊢
          rw [begun_concat]
          simp only [latest_concat_of_not_operation hm]
          cases m with
          | pass timers' => simpa [begins, perform] using ih
          | run n =>
              have hbefore : moves.countP Move.isUse < UInt64.size := by omega
              have hbegins := begins_iff timers hbefore n
              rcases perform_run ((opening timers).after moves) n with
                ⟨delay, wrapped, -, -, hperform⟩ | ⟨-, hperform⟩
              · -- the latest start is the one whose task begins
                rw [hperform] at hbegins
                refine iff_of_false (by simp [hperform, isRunning]) ?_
                rintro ⟨n', task, hlatest, hnew⟩
                obtain ⟨rfl, -⟩ := hlatest.unique ((hbegins wrapped.task).mp rfl)
                exact hnew (by simp [begins, hperform, Move.run?])
              · simpa [begins, hperform] using ih
          | _ => cases hm

end Runs

end Session

end Cadence.OneShot
