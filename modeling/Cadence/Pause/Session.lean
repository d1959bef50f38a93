import Cadence.Pause.Coordinator

/-!
# Sessions of a pause coordinator

A session is a coordinator on a timeline, together with the calls that are under
way. It is open: its surroundings make the moves. They call the coordinator, let
time pass, and return from the calls that the coordinator makes to them, also
with further calls in between, to any depth. After each move the session says
what it signals: a call out, an answer, or that a drive has its next turn.
-/

namespace Cadence.Pause

/-- How the coordinator came to run. -/
inductive Entrance
  | request
  | alarm
  /-- The coordinator goes away, and whoever caused it gets the answer. -/
  | close (dropped : Bool)
deriving DecidableEq

/-- Work that waits for something above it on the stack. -/
inductive Frame (δ : Type)
  | travelling (drive : δ)
  | within (entrance : Entrance) (stage : Stage)

/-- Who still holds the coordinator. -/
inductive Standing
  /-- The owner does. -/
  | owned
  /-- Only the calls under way do. -/
  | orphaned
  /-- Nobody does. -/
  | closed
deriving DecidableEq

/-- A coordinator, its timeline and the work under way, innermost first. -/
structure Session (σ δ : Type) where
  timers : σ
  coordinator : Coordinator := {}
  standing : Standing := .owned
  frames : List (Frame δ) := []

inductive Move
  | pause (sources : List SourceId) (grace : Span)
  | pauseAll (grace : Span)
  | finish (source : SourceId)
  | letGo
  | travel (travel : Travel)
  /-- A call out returns; `sources` is its answer where it has one. -/
  | resume (sources : List SourceId)
  /-- The drive on top takes its next turn. -/
  | proceed
deriving DecidableEq

inductive Answer
  | done
  | gone
  | dropped (existed : Bool)
  | arrived (arrival : Arrival)
deriving DecidableEq

/-- What a move leads to. -/
inductive Signal
  | quiet
  | called (call : Call)
  | answered (answer : Answer)
deriving DecidableEq

/-- The session after a move, what it logged and what it signals. -/
structure Outcome (σ δ : Type) where
  session : Session σ δ
  events : List Event := []
  signal : Signal := .quiet

namespace Session

variable {σ δ : Type} [Timeline σ δ Alarm]

/-- Whether a frame belongs to an operation that was called. -/
def Frame.isRequest : Frame δ → Bool
  | .within .request _ => true
  | _ => false

def busy (s : Session σ δ) : Bool := s.frames.any Frame.isRequest

/-- What the end of an entrance answers. -/
def closing (s : Session σ δ) (dropped : Bool) : Outcome σ δ :=
  { session := s, signal := .answered (if dropped then .dropped true else .done) }

/-- Goes on with the progress of an operation: a call out leaves a frame behind,
and an end answers the caller. The last operation under way takes an orphaned
coordinator with it. -/
def settle (s : Session σ δ) (entrance : Entrance) (p : Progress σ) : Outcome σ δ :=
  let s := { s with coordinator := p.coordinator, timers := p.timers }
  match p.next with
  | some (call, stage) =>
      { session := { s with frames := .within entrance stage :: s.frames }
        events := p.events
        signal := .called call }
  | none =>
      match entrance with
      | .alarm => { session := s, events := p.events }
      | .close dropped => { s.closing dropped with events := p.events }
      | .request =>
          if s.standing = .orphaned ∧ ¬ s.busy then
            let q := s.coordinator.close s.timers
            let s := { s with
              standing := .closed, coordinator := q.coordinator, timers := q.timers }
            match q.next with
            | some (call, stage) =>
                { session := { s with frames := .within (.close false) stage :: s.frames }
                  events := p.events ++ q.events
                  signal := .called call }
            | none => { session := s, events := p.events ++ q.events, signal := .answered .done }
          else { session := s, events := p.events, signal := .answered .done }

/-- Lets the owner's hold go; with no operation under way the coordinator goes away. -/
def letGo (s : Session σ δ) : Outcome σ δ :=
  if s.standing ≠ .owned then { session := s, signal := .answered (.dropped false) }
  else if s.busy then
    { session := { s with standing := .orphaned }, signal := .answered (.dropped true) }
  else
    { s with standing := .closed }.settle (.close true) (s.coordinator.close s.timers)

/-- Runs an operation if the coordinator is still there. -/
def request (s : Session σ δ) (operation : Progress σ) : Outcome σ δ :=
  if s.standing = .owned then s.settle .request operation
  else { session := s, signal := .answered .gone }

def proceed (s : Session σ δ) : Outcome σ δ :=
  match s.frames with
  | .travelling drive :: rest =>
      match Timeline.turn s.timers drive with
      | .run alarm events timers drive =>
          let s := { s with timers, frames := .travelling drive :: rest }
          let out := s.settle .alarm (s.coordinator.alarm timers alarm)
          { out with events := events ++ out.events }
      | .over arrival timers =>
          { session := { s with timers, frames := rest }, signal := .answered (.arrived arrival) }
  | _ => { session := s }

def travel (s : Session σ δ) (t : Travel) : Outcome σ δ :=
  match Timeline.depart s.timers t with
  | .inl drive => { session := { s with frames := .travelling drive :: s.frames } }
  | .inr arrival => { session := s, signal := .answered (.arrived arrival) }

def resume (s : Session σ δ) (sources : List SourceId) : Outcome σ δ :=
  match s.frames with
  | .within entrance stage :: rest =>
      { s with frames := rest }.settle entrance (s.coordinator.resume s.timers sources stage)
  | _ => { session := s }

def perform (s : Session σ δ) : Move → Outcome σ δ
  | .pause sources grace => s.request (s.coordinator.pause s.timers sources grace)
  | .pauseAll grace =>
      s.request { coordinator := s.coordinator, timers := s.timers,
                  next := some (.allSources, .listing grace) }
  | .finish source => s.request (s.coordinator.finish s.timers source)
  | .letGo => s.letGo
  | .travel t => s.travel t
  | .resume sources => s.resume sources
  | .proceed => s.proceed

end Session

end Cadence.Pause
