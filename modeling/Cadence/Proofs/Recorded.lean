import Cadence.Timeline

/-! # A timer service with a record

A component asks nothing of its timer service but to put tasks off and to take them back.
What it hands over is told by a service that passes everything on and keeps a record of it,
whatever the service behind it does with the tasks.
-/

namespace Cadence

/-- A timer service, and the delays and tasks that were handed to it, in their order. -/
structure Recorded (σ τ : Type) where
  timers : σ
  handed : List (Span × τ) := []

namespace Recorded

variable {σ τ : Type} [TimerService σ τ]

instance : TimerService (Recorded σ τ) τ where
  schedule s delay task :=
    let (id, timers) := TimerService.schedule s.timers delay task
    (id, ⟨timers, s.handed ++ [(delay, task)]⟩)
  cancel s id := { s with timers := TimerService.cancel s.timers id }

@[simp] theorem handed_schedule (s : Recorded σ τ) (delay : Span) (task : τ) :
    (TimerService.schedule s delay task).2.handed = s.handed ++ [(delay, task)] := rfl

@[simp] theorem handed_cancel (s : Recorded σ τ) (id : TaskId) :
    (TimerService.cancel s id).handed = s.handed := rfl

end Recorded

end Cadence
