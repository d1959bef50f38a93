import Cadence.Timeline

/-!
# The executor

Tasks of a live event loop. Deadlines are rounded up to whole milliseconds, and
a task may also wait for a signal instead of a deadline. Cancelling takes a
task out of the books at once, but the task itself is only thrown away at the
next turn. Which of several ready tasks runs first is a choice of the loop; a
timeline takes the oldest.
-/

namespace Cadence

/-- What a task of the executor waits for. -/
inductive Wait
  | deadline (time : Span)
  | signal (raised : Bool)
deriving DecidableEq

structure Job (τ : Type) where
  id : TaskId
  wait : Wait
  task : τ
  cancelled : Bool := false

namespace Job

variable {τ : Type}

/-- Whether a task could run now. -/
def ready (now : Span) (job : Job τ) : Bool :=
  match job.wait with
  | .deadline time => time ≤ now
  | .signal raised => raised

/-- A task whose signal has been raised. One that waits for a deadline has no signal. -/
def raise (job : Job τ) : Job τ :=
  match job.wait with
  | .deadline _ => job
  | .signal _ => { job with wait := .signal true }

/-- What is logged as a task starts. -/
def events (job : Job τ) : List Event :=
  match job.wait with
  | .deadline _ => [.runningTask .executor job.id]
  | .signal _ => []

end Job

/-- The tasks of a live loop, the time, and the tasks still in the books. -/
structure Executor (τ : Type) where
  elapsed : Span := .zero
  nextId : TaskId := 0
  tracked : List TaskId := []
  jobs : List (Job τ) := []

namespace Executor

variable {τ : Type}

/-- A time rounded up to whole milliseconds. -/
def roundUp (nanos : Nat) : Nat := (nanos + 999999) / 1000000 * 1000000

/-- The farthest delay of a deadline that no clock can show: thirty years. -/
def farDelay : Nat := 946080000000000000

/-- The end of a delay that starts now. -/
def deadlineAfter (e : Executor τ) (delay : Span) : Span :=
  let time := e.elapsed.nanos + delay.nanos
  if time < 9223372036854775808000000000 then .ofNanos (roundUp time)
  else .ofNanos (roundUp (e.elapsed.nanos + farDelay))

/-- Adds a task under a fresh number. -/
def track (e : Executor τ) (wait : Wait) (task : τ) : TaskId × Executor τ :=
  (e.nextId,
    { e with
      nextId := e.nextId + 1
      tracked := e.tracked ++ [e.nextId]
      jobs := e.jobs ++ [{ id := e.nextId, wait, task }] })

def schedule (e : Executor τ) (delay : Span) (task : τ) : TaskId × Executor τ :=
  e.track (.deadline (e.deadlineAfter delay)) task

/-- Runs the task once its signal is raised. -/
def spawn (e : Executor τ) (task : τ) : TaskId × Executor τ :=
  e.track (.signal false) task

/-- Raises the signal that a task waits for. -/
def raise (e : Executor τ) (id : TaskId) : Executor τ :=
  { e with jobs := e.jobs.map fun job => if job.id = id then job.raise else job }

/-- Takes a task out of the books; the task is thrown away at the next turn. -/
def cancel (e : Executor τ) (id : TaskId) : Executor τ :=
  if id ∈ e.tracked then
    { e with
      tracked := e.tracked.erase id
      jobs := e.jobs.map fun job => if job.id = id then { job with cancelled := true } else job }
  else e

def cancelAll (e : Executor τ) : Executor τ :=
  e.tracked.foldl cancel e

/-- Whether a task has neither finished nor been thrown away. -/
def holds (e : Executor τ) (id : TaskId) : Bool := e.jobs.any (·.id = id)

def sweep (e : Executor τ) : Executor τ :=
  { e with jobs := e.jobs.filter (!·.cancelled) }

/-- The earliest deadline among tasks, if any waits for one. -/
def earliest : List (Job τ) → Option Span
  | [] => none
  | job :: rest =>
      match job.wait, earliest rest with
      | .deadline time, some best => some (if time ≤ best then time else best)
      | .deadline time, none => some time
      | .signal _, best => best

/-- The ready task that the choice of the loop falls on. -/
def pick (e : Executor τ) (choice : Nat) : Option (Job τ) :=
  let ready := e.jobs.filter (Job.ready e.elapsed)
  ready[choice % ready.length]?

/-- Finds a ready task. With none ready the time moves to the next deadline up to the
target, and with none due by then to the target. -/
def seek (e : Executor τ) (target : Span) (choice : Nat) : Executor τ × Option (Job τ) :=
  match e.pick choice with
  | some job => (e, some job)
  | none =>
      let next := (earliest e.jobs).filter (· ≤ target)
      let e := { e with elapsed := e.elapsed.max (next.getD target) }
      (e, next.bind fun _ => e.pick choice)

/-- Takes a task out to run it: a delayed one leaves the books before it starts. -/
def begin (e : Executor τ) (job : Job τ) : Executor τ :=
  { e with
    jobs := e.jobs.eraseP (·.id = job.id)
    tracked :=
      match job.wait with
      | .deadline _ => e.tracked.erase job.id
      | .signal _ => e.tracked }

/-- Takes a task that has ended off the books, if it is still in them. -/
def retire (e : Executor τ) (id : TaskId) : Executor τ :=
  { e with tracked := e.tracked.erase id }

/-- A task that ran goes back to waiting for its signal. If it was cancelled as it ran, it
is thrown away. -/
def park (e : Executor τ) (job : Job τ) (raised : Bool) : Executor τ :=
  if job.id ∈ e.tracked then
    { e with jobs := e.jobs ++ [{ job with wait := .signal raised }] }
  else e

/-- An advance to `target`. `running` is a task that was taken out to run and has not been
taken off the books since. -/
structure Drive where
  target : Span
  running : Option TaskId := none
deriving DecidableEq

/-- The executor after the task that ran last has ended. -/
def afterRun (e : Executor τ) (d : Drive) : Executor τ :=
  match d.running with
  | none => e
  | some id => e.retire id

/-- Brings up the oldest task that is ready, or ends the advance. -/
def turn (e : Executor τ) (d : Drive) : Turn (Executor τ) Drive τ :=
  match (e.afterRun d).sweep.seek d.target 0 with
  | (e, some job) => .run job.task job.events (e.begin job) { d with running := some job.id }
  | (e, none) => .over .arrived e

instance : TimerService (Executor τ) τ where
  schedule := schedule
  cancel := cancel

instance : Timeline (Executor τ) Drive τ where
  elapsed := elapsed
  pending e := e.tracked.length
  clock e := some e.elapsed
  depart e
    | .advance distance => .inl { target := e.deadlineAfter distance }
    | _ => .inl { target := e.elapsed }
  turn := turn

instance : Signals (Executor τ) τ where
  spawn e task := some (e.spawn task)
  raise := raise
  holds := holds

end Executor

end Cadence
