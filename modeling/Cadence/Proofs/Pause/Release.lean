import Cadence.Pause.Coordinator
import Cadence.Proofs.Agenda.Queue

/-! # The release timer on its agenda

The agenda of a coordinator holds the task of the release timer while the timer
runs, and nothing otherwise. So a task that comes up always belongs to the
generation for which it was scheduled, however often generations were counted.
-/

namespace Cadence.Pause

/-- The agenda holds the task of a running timer and nothing else. -/
structure Attuned (t : OneShot) (a : Agenda Alarm) : Prop where
  sound : a.Sound
  idle : t.armed = false → a.queue = []
  running : t.armed = true →
    ∃ e, a.queue = [e] ∧ t.pending = some e.id ∧ e.task = ⟨t.generation⟩

namespace Attuned

variable {t : OneShot} {a : Agenda Alarm}

theorem fresh : Attuned {} {} where
  sound := Agenda.sound_empty
  idle _ := rfl
  running h := by cases h

theorem stop (h : Attuned t a) : Attuned (t.stop a).1 (t.stop a).2 := by
  have hqueue : (t.stop a).2.queue = [] := by
    unfold OneShot.stop
    cases harmed : t.armed with
    | false =>
        have hidle := h.idle harmed
        cases hpending : t.pending with
        | none => exact hidle
        | some id =>
            show (a.cancel id).queue = []
            rw [h.sound.cancel_queue, hidle]
            rfl
    | true =>
        obtain ⟨e, hqueue, hpending, _⟩ := h.running harmed
        rw [hpending]
        show (a.cancel e.id).queue = []
        rw [h.sound.cancel_queue, hqueue]
        simp
  exact ⟨OneShot.sound_stop t h.sound, fun _ => hqueue, fun harmed => by cases harmed⟩

theorem stop_queue (h : Attuned t a) : (t.stop a).2.queue = [] := h.stop.idle rfl

/-- The only task that waits once the timer is armed is the one it was armed with. -/
theorem start_queue (h : Attuned t a) (delay : Span) :
    (t.start a delay Alarm.mk).2.queue =
      [(t.stop a).2.entryFor delay ⟨(t.stop a).1.generation⟩] := by
  have hperm := (t.stop a).2.schedule_queue_perm delay ⟨(t.stop a).1.generation⟩
  rw [h.stop_queue] at hperm
  exact List.perm_singleton.mp hperm

theorem start (h : Attuned t a) (delay : Span) :
    Attuned (t.start a delay Alarm.mk).1 (t.start a delay Alarm.mk).2 := by
  have hstop := h.stop
  refine ⟨hstop.sound.schedule delay _, fun harmed => (by cases harmed), fun _ => ?_⟩
  exact ⟨_, h.start_queue delay, rfl, rfl⟩

/-- A task that comes up is the running timer's, and leaves nothing behind. -/
theorem of_popDue (h : Attuned t a) {limit : Span} {e : Entry Alarm} {b : Agenda Alarm}
    (hpop : a.popDue limit = some (e, b)) :
    t.armed = true ∧ t.fire e.task.generation = some { t with armed := false } ∧
      Attuned { t with armed := false } (b.started e) := by
  have hsound := h.sound.started hpop
  obtain ⟨rest, hqueue, _, rfl⟩ := Agenda.popDue_eq_some_iff.mp hpop
  have harmed : t.armed = true := by
    by_contra hidle
    have hempty := h.idle (by simpa using hidle)
    rw [hqueue] at hempty
    cases hempty
  obtain ⟨found, hfound, _, htask⟩ := h.running harmed
  rw [hqueue] at hfound
  cases hfound
  refine ⟨harmed, ?_, hsound, fun _ => rfl, fun harmed => by cases harmed⟩
  rw [htask]
  exact if_pos rfl

theorem settled (h : Attuned t a) {d : Agenda.Drive} (haimed : d.Aimed)
    (hnone : a.popDue d.limit = none) : Attuned t (a.settled d) where
  sound := h.sound.settled haimed hnone
  idle := h.idle
  running := h.running

end Attuned

end Cadence.Pause
