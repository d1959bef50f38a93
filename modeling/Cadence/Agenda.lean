import Cadence.Timeline

/-!
# The agenda

Tasks wait in a queue ordered by deadline and, among equal deadlines, by the
order in which they were scheduled. Time stands still except while a drive runs
the queue: each task starts with the time at its own deadline, or later if the
time was already past it, and an advance ends by setting the time to its target.
-/

namespace Cadence

/-- The place of a task in the queue. -/
structure Key where
  deadline : Span
  order : Nat
deriving DecidableEq

instance : LT Key :=
  ⟨fun a b => a.deadline < b.deadline ∨ (a.deadline = b.deadline ∧ a.order < b.order)⟩

instance (a b : Key) : Decidable (a < b) :=
  inferInstanceAs (Decidable (_ ∨ _))

structure Entry (τ : Type) where
  key : Key
  id : TaskId
  task : τ

/-- Tasks that wait for their deadlines, and the time. -/
structure Agenda (τ : Type) where
  elapsed : Span := .zero
  nextOrder : Nat := 0
  nextId : TaskId := 0
  queue : List (Entry τ) := []
  keys : List (TaskId × Key) := []

namespace Agenda

variable {τ : Type}

/-- Puts an entry behind every entry that is not later than it. -/
def insert (e : Entry τ) : List (Entry τ) → List (Entry τ)
  | [] => [e]
  | x :: rest => if e.key < x.key then e :: x :: rest else x :: insert e rest

/-- Puts a task off; its deadline stops at the largest span. -/
def schedule (a : Agenda τ) (delay : Span) (task : τ) : TaskId × Agenda τ :=
  let key := ⟨a.elapsed + delay, a.nextOrder⟩
  (a.nextId,
    { a with
      nextOrder := a.nextOrder + 1
      nextId := a.nextId + 1
      queue := insert ⟨key, a.nextId, task⟩ a.queue
      keys := (a.nextId, key) :: a.keys })

def cancel (a : Agenda τ) (id : TaskId) : Agenda τ :=
  match a.keys.lookup id with
  | none => a
  | some key =>
      { a with
        queue := a.queue.eraseP (·.key = key)
        keys := a.keys.eraseP (·.1 = id) }

/-- Takes the first task out of the queue if it is due by `limit`. -/
def popDue (a : Agenda τ) (limit : Span) : Option (Entry τ × Agenda τ) :=
  match a.queue with
  | [] => none
  | e :: rest =>
      if limit < e.key.deadline then none
      else some (e, { a with queue := rest, keys := a.keys.eraseP (·.1 = e.id) })

def pending (a : Agenda τ) : Nat := a.queue.length

/-- The delay until the earliest task, zero if it is overdue. -/
def nextDelay (a : Agenda τ) : Option Span :=
  a.queue.head?.map (·.key.deadline - a.elapsed)

/-- The seconds from which on a clock reading can no longer be shown. -/
def clockSecs : Nat := 9223372036854775808

/-- The reading of the clock. -/
def clock (a : Agenda τ) : Option Span :=
  if a.elapsed.secs < clockSecs then some a.elapsed else none

/-- What a reader of the clock is told from then on. -/
def clockFailure : String := "overflow when adding duration to instant"

/-- A run over the queue: tasks due by `limit` are run, then the time is set to
`settle` if there is one. A jump is reported by its delay instead of the count. -/
structure Drive where
  limit : Span
  settle : Option Span
  jump : Option Span := none
  ran : Nat := 0
deriving DecidableEq

def advance (a : Agenda τ) (distance : Span) : Drive :=
  { limit := a.elapsed + distance, settle := some (a.elapsed + distance) }

/-- Starts a drive; a jump with nothing pending is over at once. -/
def depart (a : Agenda τ) : Travel → Drive ⊕ Arrival
  | .advance distance => .inl (a.advance distance)
  | .runUntilIdle => .inl { limit := a.elapsed, settle := none }
  | .fastForward =>
      match a.nextDelay with
      | none => .inr (.jumped none)
      | some delay => .inl { a.advance delay with jump := some delay }

def Drive.arrival (d : Drive) : Arrival :=
  match d.jump with
  | some delay => .jumped (some delay)
  | none => .ran d.ran

/-- Brings up the next due task, or ends the drive. -/
def turn (a : Agenda τ) (d : Drive) : Turn (Agenda τ) Drive τ :=
  match a.popDue d.limit with
  | some (e, rest) =>
      .run e.task [.runningTask .agenda e.id]
        { rest with elapsed := rest.elapsed.max e.key.deadline } { d with ran := d.ran + 1 }
  | none => .over d.arrival { a with elapsed := d.settle.getD a.elapsed }

instance : TimerService (Agenda τ) τ where
  schedule := schedule
  cancel := cancel

instance : Timeline (Agenda τ) Drive τ where
  elapsed := elapsed
  pending := pending
  clock := clock
  depart := depart
  turn := turn

/-- Nothing on an agenda waits for a signal. -/
instance : Signals (Agenda τ) τ where
  spawn _ _ := none
  raise a _ := a
  holds _ _ := false

def describe (a : Agenda τ) : String :=
  "ManualSequence \x7b elapsed: " ++ a.elapsed.text ++ ", pending: "
    ++ Text.decimal a.pending ++ " \x7d"

end Agenda

end Cadence
