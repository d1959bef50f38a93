import Cadence.Agenda.Session
import Cadence.Rehearsal.Reply

/-!
# Rehearsals of an agenda

Runs an agenda whose tasks follow scripts and are written down as they start,
together with named one-shot timers on the same agenda. The timers may be given
a service that never takes a task back.
-/

namespace Cadence.Rehearsal.Sequencing

inductive Step
  | schedule (delay : Span) (label : String) (steps : List Step)
  | cancel (id : TaskId)
  | travel (travel : Travel)
  | now
  | describe
  | timerNew (name : String)
  | timerDrop (name : String)
  | start (name : String) (delay : Span) (label : String) (steps : List Step)
  | stop (name : String)
  | timer (name : String)
  | timerDescribe (name : String)
deriving Inhabited

/-- What the agenda holds. The task of a timer carries the timer's serial number
and generation. -/
inductive Work
  | plain (label : String) (steps : List Step)
  | timed (serial : Nat) (generation : UInt64) (label : String) (steps : List Step)

/-- A task that started: its label, the time and the replies of its steps so far. -/
structure Run where
  label : String
  time : Span
  replies : List Reply := []

/-- A script under way; `run` is the place of its task among those that started. -/
structure Cue where
  run : Option Nat := none
  rest : List Step

/-- A named timer. -/
structure NamedTimer where
  name : String
  serial : Nat
  timer : OneShot := {}

/-- An agenda with its timers. -/
structure Stage where
  session : Agenda.Session Work := {}
  leaky : Bool := false
  timers : List NamedTimer := []
  nextSerial : Nat := 0
  cues : List Cue := []
  signal : Agenda.Signal Work := .quiet
  runs : List Run := []
  events : List Event := []
  reply : Reply := .nothing

namespace Stage

def move (w : Stage) (m : Agenda.Move Work) : Stage :=
  let (session, signal) := w.session.perform m
  let events := match signal with
    | .started _ events => events
    | _ => []
  { w with session, signal, events := w.events ++ events }

/-- Hands a reply to the script whose step it answers. -/
def deliver (w : Stage) (reply : Reply) : Stage :=
  let w := { w with signal := .quiet }
  match w.cues.head?.bind (·.run) with
  | some k =>
      { w with runs := w.runs.modify k fun r => { r with replies := r.replies ++ [reply] } }
  | none => { w with reply }

def timer? (w : Stage) (name : String) : Option NamedTimer := w.timers.find? (·.name == name)

/-- Changes the timer of a name by an operation on its service. -/
def onTimer (w : Stage) (name : String)
    (direct : OneShot → Agenda Work → OneShot × Agenda Work)
    (leaky : OneShot → Leaky (Agenda Work) → OneShot × Leaky (Agenda Work)) : Stage :=
  match w.timer? name with
  | none => w
  | some t =>
      let (timer, agenda) :=
        if w.leaky then
          let (timer, service) := leaky t.timer ⟨w.session.agenda⟩
          (timer, service.timers)
        else direct t.timer w.session.agenda
      { w with
        session := { w.session with agenda }
        timers := w.timers.map fun old => if old.name = name then { old with timer } else old }

def stopTimer (w : Stage) (name : String) : Stage := w.onTimer name OneShot.stop OneShot.stop

/-- Stops the timer of a name and forgets it. -/
def dropTimer (w : Stage) (name : String) : Stage :=
  let w := w.stopTimer name
  { w with timers := w.timers.filter (·.name != name) }

def begin (w : Stage) (label : String) (steps : List Step) : Stage :=
  { w with
    signal := .quiet
    cues := { run := some w.runs.length, rest := steps } :: w.cues
    runs := w.runs ++ [{ label, time := w.session.agenda.elapsed }] }

/-- A task starts. The task of a timer that was stopped since has no effect. -/
def started (w : Stage) : Work → Stage
  | .plain label steps => w.begin label steps
  | .timed serial generation label steps =>
      match (w.timers.find? (·.serial = serial)).bind (·.timer.fire generation) with
      | none => w.move .finish
      | some timer =>
          let update (old : NamedTimer) : NamedTimer :=
            if old.serial = serial then { old with timer } else old
          { w with timers := w.timers.map update }.begin label steps

/-- Answers a step about a timer, if there is one of that name. -/
def withTimer (w : Stage) (name : String) (f : NamedTimer → Stage × Reply) : Stage :=
  match w.timer? name with
  | none => w.deliver .noTimer
  | some t =>
      let (w, reply) := f t
      w.deliver reply

def perform (w : Stage) : Step → Stage
  | .schedule delay label steps => w.move (.schedule delay (.plain label steps))
  | .cancel id => (w.move (.cancel id)).deliver .nothing
  | .travel t => w.move (.travel t)
  | .now =>
      w.deliver <| match w.session.agenda.clock with
        | some time => .span time
        | none => .unreadableClock
  | .describe => w.deliver (.text w.session.agenda.describe)
  | .timerNew name =>
      let w := w.dropTimer name
      let fresh : NamedTimer := { name, serial := w.nextSerial }
      let w := { w with timers := w.timers ++ [fresh], nextSerial := w.nextSerial + 1 }
      w.deliver .nothing
  | .timerDrop name =>
      let existed := (w.timer? name).isSome
      (w.dropTimer name).deliver (.flag existed)
  | .start name delay label steps =>
      w.withTimer name fun t =>
        let task := fun generation => Work.timed t.serial generation label steps
        (w.onTimer name (fun timer s => timer.start s delay task)
          (fun timer s => timer.start s delay task), .nothing)
  | .stop name => w.withTimer name fun _ => (w.stopTimer name, .nothing)
  | .timer name => w.withTimer name fun t => (w, .timer t.timer.isRunning t.timer.currentDelay)
  | .timerDescribe name => w.withTimer name fun t => (w, .text t.timer.describe)

def drives (w : Stage) : Bool :=
  match w.session.frames with
  | .travelling _ :: _ => true
  | _ => false

def tick (w : Stage) : Option Stage :=
  match w.signal with
  | .started work _ => some (w.started work)
  | .scheduled id => some (w.deliver (.count id))
  | .arrived arrival => some (w.deliver (.ofArrival arrival))
  | .quiet =>
      if w.drives then some (w.move .proceed)
      else match w.cues with
        | [] => none
        | cue :: rest =>
            match cue.rest with
            | step :: later =>
                some ({ w with cues := { cue with rest := later } :: rest }.perform step)
            | [] =>
                let w := { w with cues := rest }
                some (if cue.run.isSome then w.move .finish else w)

def run : Nat → Stage → Stage
  | 0, w => w
  | fuel + 1, w =>
      match w.tick with
      | some w => run fuel w
      | none => w

def play (w : Stage) (step : Step) : Stage :=
  { w with runs := [], events := [], reply := .nothing, cues := [{ rest := [step] }] }.run budget

def playAll (w : Stage) : List Step → List Stage
  | [] => []
  | step :: rest =>
      let w := w.play step
      w :: playAll w rest

end Stage

end Cadence.Rehearsal.Sequencing
