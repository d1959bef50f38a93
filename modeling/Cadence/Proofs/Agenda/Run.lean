import Cadence.Agenda.Session
import Cadence.Proofs.Agenda.Queue
import Mathlib.Data.List.Induction

/-! # Runs of an agenda

A run is a list of moves, whoever makes them: the caller outside, or a task that
schedules, cancels and drives the agenda on which it runs. Throughout every run the
agenda is sound, and what waits in its queue was put there by an earlier move. A
drive keeps its target and its place on the stack until it returns.
-/

namespace Cadence.Agenda

variable {τ : Type}

/-- Whether the move puts a task off. -/
def Move.isSchedule : Move τ → Bool
  | .schedule .. => true
  | _ => false

/-- The drive that waits at a frame. -/
def Frame.drive? : Frame → Option Drive
  | .travelling drive => some drive
  | .working => none

namespace Session

/-- A session at the beginning. -/
def fresh : Session τ := {}

/-- The session after some moves. -/
def after (s : Session τ) (moves : List (Move τ)) : Session τ :=
  moves.foldl (fun s m => (s.perform m).1) s

/-- The task that a move starts, with the place it had in the queue. -/
def start? (s : Session τ) : Move τ → Option (Entry τ)
  | .proceed =>
      match s.frames with
      | .travelling drive :: _ => (s.agenda.popDue drive.limit).map Prod.fst
      | _ => none
  | _ => none

/-- The tasks that some moves start, in their order. -/
def starts (s : Session τ) : List (Move τ) → List (Entry τ)
  | [] => []
  | m :: rest => (s.start? m).toList ++ (s.perform m).1.starts rest

/-- The drives under way, innermost first. -/
def drives (s : Session τ) : List Drive := s.frames.filterMap Frame.drive?

theorem after_append (s : Session τ) (first second : List (Move τ)) :
    s.after (first ++ second) = (s.after first).after second :=
  List.foldl_append

theorem after_concat (s : Session τ) (moves : List (Move τ)) (m : Move τ) :
    s.after (moves ++ [m]) = ((s.after moves).perform m).1 :=
  s.after_append moves [m]

theorem drives_of_frames {s : Session τ} {frame : Frame} {rest : List Frame}
    (h : s.frames = frame :: rest) :
    s.drives = frame.drive?.toList ++ rest.filterMap Frame.drive? := by
  unfold drives
  rw [h, List.filterMap_cons]
  cases frame.drive? <;> rfl

/-! ## Turns of the drive on top -/

section Turns

variable {a b : Agenda τ} {drive : Drive} {rest : List Frame} {e : Entry τ}

theorem proceed_of_due (due : a.popDue drive.limit = some (e, b)) :
    perform ⟨a, .travelling drive :: rest⟩ .proceed =
      (⟨b.started e, .working :: .travelling { drive with ran := drive.ran + 1 } :: rest⟩,
        .started e.task [.runningTask .agenda e.id]) := by
  simp only [perform, proceed, turn_of_popDue_eq_some due]

theorem proceed_of_idle (idle : a.popDue drive.limit = none) :
    perform ⟨a, .travelling drive :: rest⟩ .proceed =
      (⟨a.settled drive, rest⟩, .arrived drive.arrival) := by
  simp only [perform, proceed, turn_of_popDue_eq_none idle]

end Turns

/-- What comes of a turn: a task starts, the drive returns, or no drive is on top. -/
inductive Proceeds (s : Session τ) : Prop
  | starts (drive : Drive) (rest : List Frame) (e : Entry τ) (b : Agenda τ)
      (before : s.frames = .travelling drive :: rest)
      (due : s.agenda.popDue drive.limit = some (e, b))
      (out : s.perform .proceed =
        (⟨b.started e, .working :: .travelling { drive with ran := drive.ran + 1 } :: rest⟩,
          .started e.task [.runningTask .agenda e.id]))
      (start : s.start? .proceed = some e)
  | returns (drive : Drive) (rest : List Frame) (before : s.frames = .travelling drive :: rest)
      (idle : s.agenda.popDue drive.limit = none)
      (out : s.perform .proceed = (⟨s.agenda.settled drive, rest⟩, .arrived drive.arrival))
      (start : s.start? .proceed = none)
  | rests (still : ∀ drive rest, s.frames ≠ .travelling drive :: rest)
      (out : s.perform .proceed = (s, .quiet)) (start : s.start? .proceed = none)

theorem proceeds (s : Session τ) : Proceeds s := by
  obtain ⟨agenda, frames⟩ := s
  match frames with
  | [] => exact .rests nofun rfl rfl
  | .working :: rest => exact .rests nofun rfl rfl
  | .travelling drive :: rest =>
      cases hpop : agenda.popDue drive.limit with
      | some found =>
          obtain ⟨e, b⟩ := found
          refine .starts drive rest e b rfl hpop (proceed_of_due hpop) ?_
          simp only [start?, hpop, Option.map_some]
      | none =>
          refine .returns drive rest rfl hpop (proceed_of_idle hpop) ?_
          simp only [start?, hpop, Option.map_none]

/-- Only a turn of a drive starts a task. -/
theorem start?_eq_none {s : Session τ} {m : Move τ} (h : m ≠ .proceed) : s.start? m = none := by
  cases m with
  | proceed => exact absurd rfl h
  | _ => rfl

/-! ## Soundness -/

/-- What holds throughout every run. -/
structure Sound (s : Session τ) : Prop where
  agenda : s.agenda.Sound
  aimed : ∀ drive ∈ s.drives, drive.Aimed

theorem sound_fresh : (fresh : Session τ).Sound where
  agenda := sound_empty
  aimed := by simp [fresh, drives]

theorem Sound.proceed {s : Session τ} (h : s.Sound) : (s.perform .proceed).1.Sound := by
  have haimed := h.aimed
  cases s.proceeds with
  | starts drive rest e b before due out =>
      rw [drives_of_frames before] at haimed
      rw [out]
      refine ⟨h.agenda.started due, fun d hd => ?_⟩
      rcases List.mem_cons.mp hd with rfl | hd
      · exact haimed drive List.mem_cons_self
      · exact haimed d (List.mem_cons_of_mem _ hd)
  | returns drive rest before idle out =>
      rw [drives_of_frames before] at haimed
      rw [out]
      exact ⟨h.agenda.settled (haimed drive List.mem_cons_self) idle,
        fun d hd => haimed d (List.mem_cons_of_mem _ hd)⟩
  | rests still out => exact out.symm ▸ h

theorem Sound.perform {s : Session τ} (h : s.Sound) (m : Move τ) : (s.perform m).1.Sound := by
  cases m with
  | schedule delay task => exact ⟨h.agenda.schedule delay task, h.aimed⟩
  | cancel id => exact ⟨h.agenda.cancel id, h.aimed⟩
  | travel t =>
      unfold Session.perform
      dsimp only
      split
      next drive hdepart =>
        refine ⟨h.agenda, fun d hd => ?_⟩
        rcases List.mem_cons.mp hd with rfl | hd
        · exact depart_aimed hdepart
        · exact h.aimed d hd
      next => exact h
  | finish =>
      unfold Session.perform
      dsimp only
      split
      next rest hframes =>
        have haimed := h.aimed
        rw [drives_of_frames hframes] at haimed
        exact ⟨h.agenda, haimed⟩
      next => exact h
  | proceed => exact h.proceed

theorem Sound.after {s : Session τ} (h : s.Sound) (moves : List (Move τ)) :
    (s.after moves).Sound := by
  induction moves generalizing s with
  | nil => exact h
  | cons m rest ih => exact ih (h.perform m)

/-- A task that starts was due and first in the queue, and is taken out of it. -/
theorem start_cases {s : Session τ} {m : Move τ} {e : Entry τ} (h : s.start? m = some e) :
    ∃ drive rest b, m = .proceed ∧ s.frames = .travelling drive :: rest ∧
      s.agenda.popDue drive.limit = some (e, b) ∧ s.perform m =
        (⟨b.started e, .working :: .travelling { drive with ran := drive.ran + 1 } :: rest⟩,
          .started e.task [.runningTask .agenda e.id]) := by
  by_cases hm : m = .proceed
  · subst hm
    cases s.proceeds with
    | starts drive rest f b before due out start =>
        cases start.symm.trans h
        exact ⟨drive, rest, b, rfl, before, due, out⟩
    | returns drive rest before idle out start => cases start.symm.trans h
    | rests still out start => cases start.symm.trans h
  · rw [start?_eq_none hm] at h
    cases h

theorem exists_start {s : Session τ} {m : Move τ} {task : τ} {events : List Event}
    (h : (s.perform m).2 = .started task events) : ∃ e, s.start? m = some e := by
  cases m with
  | schedule delay task => cases h
  | cancel id => cases h
  | travel t =>
      unfold perform at h
      dsimp only at h
      split at h <;> cases h
  | finish =>
      unfold perform at h
      dsimp only at h
      split at h <;> cases h
  | proceed =>
      cases s.proceeds with
      | starts drive rest e b before due out start => exact ⟨e, start⟩
      | returns drive rest before idle out =>
          rw [out] at h
          cases h
      | rests still out =>
          rw [out] at h
          cases h

/-- A task starts with the time at its deadline. -/
theorem Sound.start_elapsed {s : Session τ} (h : s.Sound) {m : Move τ} {e : Entry τ}
    (hstart : s.start? m = some e) :
    (s.perform m).2 = .started e.task [.runningTask .agenda e.id] ∧
      (s.perform m).1.agenda.elapsed = e.key.deadline := by
  obtain ⟨drive, rest, b, rfl, _, due, out⟩ := start_cases hstart
  rw [out]
  exact ⟨rfl, h.agenda.started_elapsed due⟩

theorem mem_of_start {s : Session τ} {m : Move τ} {e : Entry τ} (h : s.start? m = some e) :
    e ∈ s.agenda.queue := by
  obtain ⟨drive, rest, b, rfl, _, due, _⟩ := start_cases h
  obtain ⟨queue, hqueue, _⟩ := popDue_eq_some_iff.mp due
  simp [hqueue]

/-! ## Where waiting tasks come from -/

/-- A move puts a task into the queue only by scheduling it. -/
theorem Sound.mem_perform {s : Session τ} (h : s.Sound) {m : Move τ} {e : Entry τ}
    (he : e ∈ (s.perform m).1.agenda.queue) :
    e ∈ s.agenda.queue ∨
      ∃ delay, m = .schedule delay e.task ∧ e = s.agenda.entryFor delay e.task := by
  cases m with
  | schedule delay task =>
      rcases mem_schedule.mp he with rfl | he
      · exact .inr ⟨delay, rfl, rfl⟩
      · exact .inl he
  | cancel id => exact .inl (h.agenda.mem_cancel.mp he).1
  | travel t =>
      unfold Session.perform at he
      dsimp only at he
      split at he <;> exact .inl he
  | finish =>
      unfold Session.perform at he
      dsimp only at he
      split at he <;> exact .inl he
  | proceed =>
      cases s.proceeds with
      | starts drive rest started b before due out =>
          obtain ⟨queue, hqueue, _, rfl⟩ := popDue_eq_some_iff.mp due
          rw [out] at he
          exact .inl (hqueue ▸ List.mem_cons_of_mem started he)
      | returns drive rest before idle out =>
          rw [out] at he
          exact .inl he
      | rests still out =>
          rw [out] at he
          exact .inl he

/-- Numbers and places in the order are handed out by scheduling only, one at a time. -/
theorem perform_counters (s : Session τ) (m : Move τ) :
    (s.perform m).1.agenda.nextId = s.agenda.nextId + (if m.isSchedule then 1 else 0) ∧
      (s.perform m).1.agenda.nextOrder =
        s.agenda.nextOrder + (if m.isSchedule then 1 else 0) := by
  cases m with
  | schedule delay task => exact ⟨rfl, rfl⟩
  | cancel id => exact ⟨cancel_nextId _ _, cancel_nextOrder _ _⟩
  | travel t =>
      unfold Session.perform
      dsimp only
      split <;> exact ⟨rfl, rfl⟩
  | finish =>
      unfold Session.perform
      dsimp only
      split <;> exact ⟨rfl, rfl⟩
  | proceed =>
      cases s.proceeds with
      | starts drive rest e b before due out =>
          obtain ⟨queue, _, _, rfl⟩ := popDue_eq_some_iff.mp due
          exact out ▸ ⟨rfl, rfl⟩
      | returns drive rest before idle out => exact out ▸ ⟨rfl, rfl⟩
      | rests still out => exact out ▸ ⟨rfl, rfl⟩

/-- Numbers that were handed out are not handed out again. -/
theorem nextId_le_perform (s : Session τ) (m : Move τ) :
    s.agenda.nextId ≤ (s.perform m).1.agenda.nextId := by
  rw [(s.perform_counters m).1]
  exact Nat.le_add_right _ _

/-- As many numbers and places were handed out as tasks were scheduled. -/
theorem counters_after (moves : List (Move τ)) :
    (fresh.after moves).agenda.nextId = moves.countP Move.isSchedule ∧
      (fresh.after moves).agenda.nextOrder = moves.countP Move.isSchedule := by
  induction moves using List.reverseRecOn with
  | nil => exact ⟨rfl, rfl⟩
  | append_singleton moves m ih =>
      obtain ⟨hid, horder⟩ := (fresh.after moves).perform_counters m
      rw [after_concat, List.countP_append, List.countP_singleton]
      exact ⟨ih.1 ▸ hid, ih.2 ▸ horder⟩

theorem nextOrder_after (moves : List (Move τ)) :
    (fresh.after moves).agenda.nextOrder = moves.countP Move.isSchedule :=
  (counters_after moves).2

/-- Every waiting task was scheduled by an earlier move and has its deadline from there. -/
theorem exists_schedule (moves : List (Move τ)) {e : Entry τ}
    (he : e ∈ (fresh.after moves).agenda.queue) :
    ∃ before delay rest, moves = before ++ .schedule delay e.task :: rest ∧
      e = (fresh.after before).agenda.entryFor delay e.task := by
  induction moves using List.reverseRecOn with
  | nil => cases he
  | append_singleton moves m ih =>
      rw [after_concat] at he
      rcases (sound_fresh.after moves).mem_perform he with he | ⟨delay, rfl, heq⟩
      · obtain ⟨before, delay, rest, hmoves, heq⟩ := ih he
        exact ⟨before, delay, rest ++ [m], by rw [hmoves]; simp, heq⟩
      · exact ⟨moves, delay, [], rfl, heq⟩

/-! ## Drives on the stack -/

/-- The drive lies right above these frames, with the same target as at its start. -/
def Holds (s : Session τ) (drive : Drive) (below : List Frame) : Prop :=
  ∃ above d, s.frames = above ++ .travelling d :: below ∧ d.limit = drive.limit ∧
    d.settle = drive.settle

theorem Holds.length_lt {s : Session τ} {drive : Drive} {below : List Frame}
    (h : s.Holds drive below) : below.length < s.frames.length := by
  obtain ⟨above, d, hframes, _⟩ := h
  rw [hframes, List.length_append, List.length_cons]
  omega

/-- A move leaves a drive in its place, unless the drive has its turn and returns. -/
theorem Holds.perform {s : Session τ} {drive : Drive} {below : List Frame}
    (h : s.Holds drive below) (m : Move τ) :
    (s.perform m).1.Holds drive below ∨ ∃ d, d.settle = drive.settle ∧
      s.agenda.popDue drive.limit = none ∧
      s.perform m = (⟨s.agenda.settled d, below⟩, .arrived d.arrival) := by
  have hsame : ∀ agenda : Agenda τ, Holds ⟨agenda, s.frames⟩ drive below := fun _ => h
  obtain ⟨above, d, hframes, hlimit, hsettle⟩ := h
  cases m with
  | schedule delay task => exact .inl (hsame _)
  | cancel id => exact .inl (hsame _)
  | travel t =>
      unfold Session.perform
      dsimp only
      split
      next new _ =>
        exact .inl ⟨.travelling new :: above, d, by simp [hframes], hlimit, hsettle⟩
      next => exact .inl (hsame s.agenda)
  | finish =>
      unfold Session.perform
      dsimp only
      split
      next rest htop =>
        -- a task that ends lies above the drive
        rw [hframes] at htop
        cases above with
        | nil => cases htop
        | cons frame above =>
            cases htop
            exact .inl ⟨above, d, rfl, hlimit, hsettle⟩
      next => exact .inl (hsame s.agenda)
  | proceed =>
      cases s.proceeds with
      | starts top rest e b before due out =>
          rw [hframes] at before
          cases above with
          | nil =>
              cases before
              exact .inl (out.symm ▸ ⟨[.working], _, rfl, hlimit, hsettle⟩)
          | cons frame above =>
              cases before
              exact .inl (out.symm ▸ ⟨.working :: .travelling _ :: above, d, rfl, hlimit, hsettle⟩)
      | returns top rest before idle out =>
          rw [hframes] at before
          cases above with
          | nil =>
              cases before
              exact .inr ⟨d, hsettle, hlimit ▸ idle, out⟩
          | cons frame above =>
              cases before
              exact .inl (out.symm ▸ ⟨above, d, rfl, hlimit, hsettle⟩)
      | rests still out => exact .inl (out.symm ▸ hsame s.agenda)

/-- The drive that a request starts has not returned at any point of these moves. -/
def Underway (s : Session τ) (t : Travel) (during : List (Move τ)) : Prop :=
  ∀ part, part <+: during → s.frames.length < (s.after (.travel t :: part)).frames.length

theorem Underway.holds {s : Session τ} {t : Travel} {drive : Drive}
    (hdepart : s.agenda.depart t = .inl drive) {during : List (Move τ)}
    (h : s.Underway t during) : (s.after (.travel t :: during)).Holds drive s.frames := by
  induction during using List.reverseRecOn with
  | nil =>
      refine ⟨[], drive, ?_, rfl, rfl⟩
      show (s.perform (.travel t)).1.frames = _
      simp only [Session.perform, hdepart]
      rfl
  | append_singleton during m ih =>
      have hbefore : s.Underway t during := fun part hpart =>
        h part (hpart.trans (List.prefix_append during [m]))
      have hlast := h (during ++ [m]) (List.prefix_refl _)
      rw [← List.cons_append, after_concat] at hlast ⊢
      refine ((ih hbefore).perform m).resolve_right ?_
      rintro ⟨d, _, _, hreturn⟩
      rw [hreturn] at hlast
      exact Nat.lt_irrefl _ hlast

/-- A drive above these frames starts only what is due by its target, and returns when
nothing due is left. -/
structure Bounded (s : Session τ) (drive : Drive) (below : List Frame) : Prop where
  due : s.frames.length = below.length + 1 → ∀ m e, s.start? m = some e →
    e.key.deadline ≤ drive.limit
  returns : s.frames.length = below.length + 1 → s.start? .proceed = none →
    (s.perform .proceed).1.frames = below
  returned : ∀ m, (s.perform m).1.frames.length ≤ below.length →
    (s.perform m).1.frames = below ∧ (∃ arrival, (s.perform m).2 = .arrived arrival) ∧
      (s.perform m).1.agenda.elapsed = drive.settle.getD s.agenda.elapsed ∧
      ∀ e ∈ (s.perform m).1.agenda.queue, drive.limit < e.key.deadline

theorem Holds.bounded {s : Session τ} {drive : Drive} {below : List Frame}
    (h : s.Holds drive below) (hsound : s.Sound) : s.Bounded drive below where
  due htop m e hstart := by
    obtain ⟨above, d, hframes, hlimit, _⟩ := h
    obtain ⟨top, rest, b, _, before, due, _⟩ := start_cases hstart
    obtain ⟨queue, _, hdue, _⟩ := popDue_eq_some_iff.mp due
    rw [hframes, List.length_append, List.length_cons] at htop
    obtain rfl : above = [] := List.length_eq_zero_iff.mp (by omega)
    cases before.symm.trans hframes
    exact hlimit ▸ hdue
  returns htop hstart := by
    obtain ⟨above, d, hframes, hlimit, _⟩ := h
    rw [hframes, List.length_append, List.length_cons] at htop
    obtain rfl : above = [] := List.length_eq_zero_iff.mp (by omega)
    cases s.proceeds with
    | starts top rest e b before due out start => cases start.symm.trans hstart
    | returns top rest before idle out =>
        cases before.symm.trans hframes
        rw [out]
    | rests still => exact absurd hframes (still d below)
  returned m hlength := by
    rcases h.perform m with hholds | ⟨d, hsettle, hidle, hreturn⟩
    · exact absurd hholds.length_lt (Nat.not_lt.mpr hlength)
    · rw [hreturn]
      refine ⟨rfl, ⟨_, rfl⟩, ?_, fun e he => hsound.agenda.lt_of_popDue_eq_none hidle he⟩
      rw [← hsettle]
      rfl

end Session

end Cadence.Agenda
