import Cadence.Executor

/-!
# Sessions of an executor

An executor together with the advance and the task under way. Whoever is in
control, the caller outside or the task that runs, makes the moves. While an
advance is under way the loop takes its turns one by one, and each turn starts
a ready task of its choice or ends the advance. A task runs until it finishes;
a spawned one may also go back to waiting for its signal.
-/

namespace Cadence.Executor

/-- An executor, the target of the advance under way and the task that runs. -/
structure Session (τ : Type) where
  executor : Executor τ := {}
  target : Option Span := none
  running : Option (Job τ) := none

/-- A move of whoever is in control. -/
inductive Move (τ : Type)
  | schedule (delay : Span) (task : τ)
  | spawn (task : τ)
  | cancel (id : TaskId)
  | cancelAll
  /-- The signal of a task is raised, which wakes it, be it for the first time or again. -/
  | raise (id : TaskId)
  /-- Time goes by of itself. -/
  | pass (distance : Span)
  | advance (distance : Span)
  /-- The loop takes its next turn with this choice among the ready tasks. -/
  | proceed (choice : Nat)
  /-- The task that runs waits for its signal again, which may have been raised already. -/
  | wait (raised : Bool)
  /-- The task that runs has come to its end. -/
  | finish

/-- What a move leads to. -/
inductive Signal (τ : Type)
  | quiet
  | issued (id : TaskId)
  | started (job : Job τ)
  | ended (id : TaskId)
  | arrived

namespace Session

variable {τ : Type}

/-- The next turn of the advance under way. While a task runs the loop waits for it. -/
def proceed (s : Session τ) (choice : Nat) : Session τ × Signal τ :=
  match s.target, s.running with
  | some target, none =>
      match s.executor.sweep.seek target choice with
      | (e, some job) => ({ s with executor := e.begin job, running := some job }, .started job)
      | (e, none) => ({ s with executor := e, target := none }, .arrived)
  | _, _ => (s, .quiet)

/-- A delayed task has nothing to wait for once it runs. -/
def wait (s : Session τ) (raised : Bool) : Session τ :=
  match s.running with
  | none => s
  | some job =>
      match job.wait with
      | .deadline _ => s
      | .signal _ => { s with executor := s.executor.park job raised, running := none }

def finish (s : Session τ) : Session τ × Signal τ :=
  match s.running with
  | none => (s, .quiet)
  | some job =>
      ({ s with executor := s.executor.retire job.id, running := none }, .ended job.id)

def perform (s : Session τ) : Move τ → Session τ × Signal τ
  | .schedule delay task =>
      let (id, executor) := s.executor.schedule delay task
      ({ s with executor }, .issued id)
  | .spawn task =>
      let (id, executor) := s.executor.spawn task
      ({ s with executor }, .issued id)
  | .cancel id => ({ s with executor := s.executor.cancel id }, .quiet)
  | .cancelAll => ({ s with executor := s.executor.cancelAll }, .quiet)
  | .raise id => ({ s with executor := s.executor.raise id }, .quiet)
  | .pass distance =>
      ({ s with executor := { s.executor with elapsed := s.executor.elapsed + distance } }, .quiet)
  | .advance distance =>
      ({ s with target := s.target.or (some (s.executor.deadlineAfter distance)) }, .quiet)
  | .proceed choice => s.proceed choice
  | .wait raised => (s.wait raised, .quiet)
  | .finish => s.finish

end Session

end Cadence.Executor
