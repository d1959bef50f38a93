import Cadence.Executor

/-!
# A loop with a choice

Which of several ready tasks a loop takes next is up to the loop. Here the choice
is part of the timeline, so that whoever drives a loop has to do with any.
-/

namespace Cadence.Executor

/-- An executor and the choice that its loop makes among the ready tasks at the next turn. -/
structure Loop (τ : Type) where
  executor : Executor τ := {}
  choice : Nat := 0

namespace Loop

variable {τ : Type}

/-- A turn of the executor, but with any choice. -/
def turn (l : Loop τ) (d : Drive) : Turn (Loop τ) Drive τ :=
  match (l.executor.afterRun d).sweep.seek d.target l.choice with
  | (e, some job) =>
      .run job.task job.events { l with executor := e.begin job } { d with running := some job.id }
  | (e, none) => .over .arrived { l with executor := e }

theorem turn_of_found {l : Loop τ} {d : Drive} {e : Executor τ} {job : Job τ}
    (h : (l.executor.afterRun d).sweep.seek d.target l.choice = (e, some job)) :
    l.turn d = .run job.task job.events { l with executor := e.begin job }
      { d with running := some job.id } := by
  unfold turn
  rw [h]

theorem turn_of_none {l : Loop τ} {d : Drive} {e : Executor τ}
    (h : (l.executor.afterRun d).sweep.seek d.target l.choice = (e, none)) :
    l.turn d = .over .arrived { l with executor := e } := by
  unfold turn
  rw [h]

instance : TimerService (Loop τ) τ where
  schedule l delay task :=
    let (id, executor) := l.executor.schedule delay task
    (id, { l with executor })
  cancel l id := { l with executor := l.executor.cancel id }

instance : Timeline (Loop τ) Drive τ where
  elapsed l := l.executor.elapsed
  pending l := l.executor.tracked.length
  clock l := some l.executor.elapsed
  depart l
    | .advance distance => .inl { target := l.executor.deadlineAfter distance }
    | _ => .inl { target := l.executor.elapsed }
  turn := turn

instance : Signals (Loop τ) τ where
  spawn l task :=
    let (id, executor) := l.executor.spawn task
    some (id, { l with executor })
  raise l id := { l with executor := l.executor.raise id }
  holds l id := l.executor.holds id

/-- The first choice is the oldest task, as on the executor's own timeline. -/
theorem turn_first (e : Executor τ) (d : Drive) :
    ({ executor := e } : Loop τ).turn d =
      match e.turn d with
      | .run task events e d => .run task events { executor := e } d
      | .over arrival e => .over arrival { executor := e } := by
  unfold turn Executor.turn
  dsimp only
  split <;> simp_all

end Loop

end Cadence.Executor
