import Cadence.Event

/-!
# Timelines

Components put work off through a timer service and read time from a timeline.
A timeline moves only while a drive is under way; a drive is plain data, so a
task may start another drive before its own has ended. Each turn of a drive
either brings up one due task or ends the drive.
-/

namespace Cadence

/-- The number of a task that was put off. -/
abbrev TaskId := Nat

/-- Puts tasks off and takes them back. -/
class TimerService (σ : Type) (τ : outParam Type) where
  /-- Runs the task after the delay; the task's number is fresh. -/
  schedule : σ → Span → τ → TaskId × σ
  /-- Takes a task back. A number that is not pending is ignored. -/
  cancel : σ → TaskId → σ

/-- A request to move time. -/
inductive Travel
  | advance (distance : Span)
  | runUntilIdle
  | fastForward
deriving DecidableEq

inductive Arrival
  | ran (tasks : Nat)
  | jumped (delay : Option Span)
  | arrived
deriving DecidableEq

/-- One turn of a drive: a task that is due and what is logged as it starts, or
the end. -/
inductive Turn (σ δ τ : Type)
  | run (task : τ) (events : List Event) (timers : σ) (drive : δ)
  | over (arrival : Arrival) (timers : σ)

/-- A timer service with a clock of its own, whose tasks come up in turns. -/
class Timeline (σ δ : Type) (τ : outParam Type) extends TimerService σ τ where
  elapsed : σ → Span
  pending : σ → Nat
  /-- The reading of the clock, or nothing where the clock cannot show it. -/
  clock : σ → Option Span
  /-- Starts a drive, or answers at once when there is nothing to do. -/
  depart : σ → Travel → δ ⊕ Arrival
  turn : σ → δ → Turn σ δ τ

/-- Tasks that wait for a signal, on a timeline that has them. -/
class Signals (σ : Type) (τ : outParam Type) where
  /-- Adds a task that runs once its signal is raised. -/
  spawn : σ → τ → Option (TaskId × σ)
  /-- Raises the signal of a task. -/
  raise : σ → TaskId → σ
  /-- Whether a task has neither ended nor been thrown away. -/
  holds : σ → TaskId → Bool

end Cadence
