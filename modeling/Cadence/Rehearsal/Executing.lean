import Cadence.Executor
import Cadence.Rehearsal.Reply

/-!
# Rehearsals of an executor

Runs an executor with tasks that write their label down when they run. A delayed
task may then cancel others or put one more off; a spawned one waits for its
gate to be opened.
-/

namespace Cadence.Rehearsal.Executing

/-- What a delayed task does after it has written its label down. -/
structure Sequel where
  cancel : Option TaskId := none
  cancelAll : Bool := false
  further : Option (String × Span) := none

inductive Step
  | schedule (delay : Span) (label : String) (sequel : Sequel)
  | spawn (label : String)
  | openGate (label : String)
  | cancel (id : TaskId)
  | cancelAll
  | advance (distance : Span)

/-- What the executor holds. -/
structure Work where
  label : String
  sequel : Sequel := {}

/-- An executor and the gates that have not been opened. -/
structure Stage where
  executor : Executor Work := {}
  gates : List (String × TaskId) := []
  runs : List (Span × String) := []
  events : List Event := []
  reply : Reply := .nothing

namespace Stage

/-- Runs a task: its label is written down, then its sequel follows. -/
def runWork (w : Stage) (work : Work) : Stage :=
  let w := { w with runs := w.runs ++ [(w.executor.elapsed, work.label)] }
  let w := match work.sequel.cancel with
    | some id => { w with executor := w.executor.cancel id }
    | none => w
  let w := if work.sequel.cancelAll then { w with executor := w.executor.cancelAll } else w
  match work.sequel.further with
  | some (label, delay) => { w with executor := (w.executor.schedule delay { label }).2 }
  | none => w

/-- Takes the turns of a drive until it is over. -/
def drive : Nat → Stage → Executor.Drive → Stage
  | 0, w, _ => w
  | fuel + 1, w, d =>
      match w.executor.turn d with
      | .run work events executor d =>
          drive fuel ({ w with executor, events := w.events ++ events }.runWork work) d
      | .over _ executor => { w with executor }

def perform (w : Stage) : Step → Stage
  | .schedule delay label sequel =>
      let (id, executor) := w.executor.schedule delay { label, sequel }
      { w with executor, reply := .count id }
  | .spawn label =>
      let (id, executor) := w.executor.spawn { label }
      { w with executor, gates := w.gates ++ [(label, id)], reply := .count id }
  | .openGate label =>
      match w.gates.lookup label with
      | none => w
      | some id =>
          { w with
            gates := w.gates.eraseP (·.1 == label)
            reply := .flag (w.executor.holds id)
            executor := w.executor.raise id }
  | .cancel id => { w with executor := w.executor.cancel id }
  | .cancelAll => { w with executor := w.executor.cancelAll }
  | .advance distance => w.drive budget { target := w.executor.deadlineAfter distance }

/-- Performs a step with a clean sheet. -/
def play (w : Stage) (step : Step) : Stage :=
  { w with runs := [], events := [], reply := .nothing }.perform step

def playAll (w : Stage) : List Step → List Stage
  | [] => []
  | step :: rest =>
      let w := w.play step
      w :: playAll w rest

end Stage

/-- What ran, by time and then by label. -/
def sortRuns (runs : List (Span × String)) : List (Span × String) :=
  runs.mergeSort fun a b => a.1 < b.1 || (a.1 == b.1 && !(b.2 < a.2))

end Cadence.Rehearsal.Executing
