import Cadence.Agenda

/-!
# Sessions of an agenda

An agenda together with the drives and tasks under way. Whoever is in control,
the caller outside or the task that runs, makes the moves: it schedules and
cancels tasks, starts drives, and a task ends by finishing. After a drive was
started it takes its turns one by one, and each turn starts a task or ends the
drive.
-/

namespace Cadence.Agenda

/-- Work that waits for something above it on the stack. -/
inductive Frame
  | travelling (drive : Drive)
  | working
deriving DecidableEq

/-- An agenda and the work under way, innermost first. -/
structure Session (τ : Type) where
  agenda : Agenda τ := {}
  frames : List Frame := []

/-- A move of whoever is in control. -/
inductive Move (τ : Type)
  | schedule (delay : Span) (task : τ)
  | cancel (id : TaskId)
  | travel (travel : Travel)
  /-- The task that runs has come to its end. -/
  | finish
  /-- The drive on top takes its next turn. -/
  | proceed

/-- What a move leads to. -/
inductive Signal (τ : Type)
  | quiet
  | scheduled (id : TaskId)
  | started (task : τ) (events : List Event)
  | arrived (arrival : Arrival)

namespace Session

variable {τ : Type}

def proceed (s : Session τ) : Session τ × Signal τ :=
  match s.frames with
  | .travelling drive :: rest =>
      match s.agenda.turn drive with
      | .run task events agenda drive =>
          (⟨agenda, .working :: .travelling drive :: rest⟩, .started task events)
      | .over arrival agenda => (⟨agenda, rest⟩, .arrived arrival)
  | _ => (s, .quiet)

def perform (s : Session τ) : Move τ → Session τ × Signal τ
  | .schedule delay task =>
      let (id, agenda) := s.agenda.schedule delay task
      ({ s with agenda }, .scheduled id)
  | .cancel id => ({ s with agenda := s.agenda.cancel id }, .quiet)
  | .travel t =>
      match s.agenda.depart t with
      | .inl drive => ({ s with frames := .travelling drive :: s.frames }, .quiet)
      | .inr arrival => (s, .arrived arrival)
  | .finish =>
      match s.frames with
      | .working :: rest => ({ s with frames := rest }, .quiet)
      | _ => (s, .quiet)
  | .proceed => s.proceed

end Session

end Cadence.Agenda
