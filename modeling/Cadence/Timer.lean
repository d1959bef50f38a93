import Cadence.Timeline

/-!
# One-shot timers

A timer owned by one component. Starting it stops the pending task first, so at
most one task is outstanding, and each stop begins a new generation. A task that
the service runs although it was stopped belongs to an older generation and has
no effect.
-/

namespace Cadence

/-- A restartable timer for one task at a time. -/
structure OneShot where
  pending : Option TaskId := none
  delay : Option Span := none
  generation : UInt64 := 0
  armed : Bool := false
deriving DecidableEq

namespace OneShot

variable {σ τ : Type} [TimerService σ τ]

/-- Takes the pending task back and begins a new generation. -/
def stop (t : OneShot) (timers : σ) : OneShot × σ :=
  ({ generation := t.generation + 1 },
    match t.pending with
    | some id => TimerService.cancel timers id
    | none => timers)

/-- Arms the timer; `task` makes the task for the timer's generation. -/
def start (t : OneShot) (timers : σ) (delay : Span) (task : UInt64 → τ) : OneShot × σ :=
  let (t, timers) := t.stop timers
  let (id, timers) := TimerService.schedule timers delay (task t.generation)
  ({ t with pending := some id, delay := some delay, armed := true }, timers)

/-- The timer once its task of `generation` runs, or nothing if that task is stale. -/
def fire (t : OneShot) (generation : UInt64) : Option OneShot :=
  if t.generation = generation then some { t with armed := false } else none

/-- Whether a task is armed and has not run. -/
def isRunning (t : OneShot) : Bool := t.armed

/-- The delay the timer was armed with, while it runs. -/
def currentDelay (t : OneShot) : Option Span :=
  if t.armed then t.delay else none

def describe (t : OneShot) : String :=
  let pending := match t.pending with
    | some id => "Some(TimerId(" ++ Text.decimal id ++ "))"
    | none => "None"
  let delay := match t.delay with
    | some d => "Some(" ++ d.text ++ ")"
    | none => "None"
  "OneShotTimer \x7b pending: " ++ pending ++ ", delay: " ++ delay ++ ", armed: "
    ++ (if t.armed then "true" else "false") ++ " \x7d"

end OneShot

/-- A timer service that never takes a task back. -/
structure Leaky (σ : Type) where
  timers : σ

instance {σ τ : Type} [TimerService σ τ] : TimerService (Leaky σ) τ where
  schedule s delay task :=
    let (id, timers) := TimerService.schedule s.timers delay task
    (id, ⟨timers⟩)
  cancel s _ := s

/-- It tells the time and brings up tasks like the service that it stands for. -/
instance {σ δ τ : Type} [Timeline σ δ τ] : Timeline (Leaky σ) δ τ where
  elapsed s := Timeline.elapsed δ s.timers
  pending s := Timeline.pending δ s.timers
  clock s := Timeline.clock δ s.timers
  depart s travel := Timeline.depart s.timers travel
  turn s drive :=
    match Timeline.turn s.timers drive with
    | .run task events timers drive => .run task events ⟨timers⟩ drive
    | .over arrival timers => .over arrival ⟨timers⟩

end Cadence
