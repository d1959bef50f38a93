import Cadence.Broadcast.Dispatcher

/-!
# Sessions of a dispatcher

A session is a dispatcher on a timeline, together with the calls that are under
way. Its surroundings make the moves: they call the dispatcher, let time pass,
and return from the calls that the dispatcher makes to them. Such a call hands a
registration to a new listener, notifies a listener, or runs posted work; in all
three the surroundings may call the dispatcher again.
-/

namespace Cadence.Broadcast

/-- How a fan-out came to run. -/
inductive Entrance
  | request
  | task (ticket : Ticket)
deriving DecidableEq

def Entrance.ticket? : Entrance → Option Ticket
  | .task ticket => some ticket
  | .request => none

/-- Work that waits for something above it on the stack. -/
inductive Frame (δ : Type)
  | travelling (drive : δ)
  /-- A fan-out notifies `current`; the listeners of `rest` come after it. -/
  | fanning (entrance : Entrance) (origin : Origin) (current : EndpointId)
      (rest : List EndpointId)
  | installing (id : EndpointId)
  | working

/-- Who still holds the dispatcher. -/
inductive Standing
  /-- The owner does. -/
  | owned
  /-- Only the calls under way do. -/
  | orphaned
  /-- Nobody does. -/
  | closed
deriving DecidableEq

/-- A dispatcher, its timeline and the work under way, innermost first. -/
structure Session (σ δ ε : Type) where
  timers : σ
  dispatcher : Dispatcher ε
  standing : Standing := .owned
  frames : List (Frame δ) := []

inductive Move (ε : Type)
  | add (origin : Origin) (endpoint : ε)
  | broadcast
  | dispatch (origin : Origin)
  | remove (registration : Registration)
  | resolve
  | disconnect (registration : Registration)
  | letGo
  | travel (travel : Travel)
  /-- A call out returns. -/
  | resume
  /-- The drive on top takes its next turn. -/
  | proceed

inductive Call (ε κ : Type)
  | install (endpoint : ε) (registration : Registration)
  | notify (endpoint : ε)
  | work (posted : κ)

inductive Answer
  | done
  | gone
  | registered (id : EndpointId)
  | verdict (verdict : Verdict)
  | interval (interval : Span)
  | dropped (existed : Bool)
  | arrived (arrival : Arrival)
deriving DecidableEq

/-- What a move leads to. -/
inductive Signal (ε κ : Type)
  | quiet
  | called (call : Call ε κ)
  | answered (answer : Answer)

/-- The session after a move, what it logged and what it signals. -/
structure Outcome (σ δ ε κ : Type) where
  session : Session σ δ ε
  notes : List Note := []
  signal : Signal ε κ := .quiet

namespace Session

variable {σ δ ε κ : Type} [Timeline σ δ (Errand κ)]

/-- The origins of the fan-outs under way, outermost first. -/
def spans (s : Session σ δ ε) : List Origin :=
  (s.frames.filterMap fun
    | .fanning _ origin _ _ => some origin
    | _ => none).reverse

/-- Events logged with the fan-outs under way. -/
def noted (s : Session σ δ ε) (events : List Event) : List Note :=
  events.map (⟨·, s.spans⟩)

/-- Whether a frame belongs to an operation that was called. -/
def Frame.isRequest : Frame δ → Bool
  | .fanning .request .. | .installing _ => true
  | _ => false

def busy (s : Session σ δ ε) : Bool := s.frames.any Frame.isRequest

def close (s : Session σ δ ε) : Session σ δ ε × List Event :=
  let (d, timers, events) := s.dispatcher.close s.timers
  ({ s with dispatcher := d, timers, standing := .closed }, events)

/-- Answers the caller of an operation. The last operation under way takes an
orphaned dispatcher with it. -/
def answer (s : Session σ δ ε) (notes : List Note) (answer : Answer) : Outcome σ δ ε κ :=
  if s.standing = .orphaned ∧ ¬ s.busy then
    let (s, events) := s.close
    { session := s, notes := notes ++ s.noted events, signal := .answered answer }
  else { session := s, notes, signal := .answered answer }

/-- Goes on with a fan-out: the next listener is notified, or the fan-out ends. -/
def fan (s : Session σ δ ε) (notes : List Note) (entrance : Entrance) (origin : Origin)
    (ids : List EndpointId) : Outcome σ δ ε κ :=
  match s.dispatcher.nextListener origin ids with
  | some (id, endpoint, rest) =>
      let s := { s with
        dispatcher := s.dispatcher.countNotification
        frames := .fanning entrance origin id rest :: s.frames }
      { session := s
        notes := notes ++ s.noted [.notifying origin id]
        signal := .called (.notify endpoint) }
  | none =>
      match entrance with
      | .request => s.answer notes .done
      | .task _ => { session := s, notes }

def fanOut (s : Session σ δ ε) (notes : List Note) (entrance : Entrance) (origin : Origin) :
    Outcome σ δ ε κ :=
  let (ids, d, events) := s.dispatcher.startFanOut origin entrance.ticket?
  let notes := notes ++ events.map (⟨·, s.spans ++ [origin]⟩)
  { s with dispatcher := d }.fan notes entrance origin (ids.getD [])

/-- Lets the owner's hold go; with no operation under way the dispatcher goes away. -/
def letGo (s : Session σ δ ε) : Outcome σ δ ε κ :=
  if s.standing ≠ .owned then { session := s, signal := .answered (.dropped false) }
  else if s.busy then
    { session := { s with standing := .orphaned }, signal := .answered (.dropped true) }
  else
    let (s, events) := s.close
    { session := s, notes := s.noted events, signal := .answered (.dropped true) }

/-- Registers a listener and hands it its registration. -/
def add (s : Session σ δ ε) (origin : Origin) (endpoint : ε) : Outcome σ δ ε κ :=
  let (id, d, events) := s.dispatcher.add origin endpoint
  { session := { s with dispatcher := d, frames := .installing id :: s.frames }
    notes := s.noted events
    signal := .called (.install endpoint ⟨origin, id⟩) }

def broadcast (visit : List Origin → List Origin) (s : Session σ δ ε) : Outcome σ δ ε κ :=
  let (verdict, d, timers, events) :=
    s.dispatcher.broadcast visit s.timers (Timeline.clock δ s.timers)
  let s := { s with dispatcher := d, timers }
  s.answer (s.noted events) (.verdict verdict)

def remove (s : Session σ δ ε) (r : Registration) : Outcome σ δ ε κ :=
  let (d, events) := s.dispatcher.remove r
  let s := { s with dispatcher := d }
  s.answer (s.noted events) .done

def resolve (s : Session σ δ ε) : Outcome σ δ ε κ :=
  let (interval, d, events) := s.dispatcher.resolveInterval
  let s := { s with dispatcher := d }
  s.answer (s.noted events) (.interval interval)

def proceed (s : Session σ δ ε) : Outcome σ δ ε κ :=
  match s.frames with
  | .travelling drive :: rest =>
      match Timeline.turn s.timers drive with
      | .run task events timers drive =>
          let s := { s with timers, frames := .travelling drive :: rest }
          let notes := s.noted events
          match task with
          | .fanOut origin ticket => s.fanOut notes (.task ticket) origin
          | .posted work =>
              { session := { s with frames := .working :: s.frames }
                notes
                signal := .called (.work work) }
      | .over arrival timers =>
          { session := { s with timers, frames := rest }, signal := .answered (.arrived arrival) }
  | _ => { session := s }

def travel (s : Session σ δ ε) (t : Travel) : Outcome σ δ ε κ :=
  match Timeline.depart s.timers t with
  | .inl drive => { session := { s with frames := .travelling drive :: s.frames } }
  | .inr arrival => { session := s, signal := .answered (.arrived arrival) }

def resume (s : Session σ δ ε) : Outcome σ δ ε κ :=
  match s.frames with
  | .fanning entrance origin _ ids :: rest => { s with frames := rest }.fan [] entrance origin ids
  | .installing id :: rest => { s with frames := rest }.answer [] (.registered id)
  | .working :: rest => { session := { s with frames := rest } }
  | _ => { session := s }

/-- Whether a move needs the dispatcher. -/
def Move.needsDispatcher : Move ε → Bool
  | .add .. | .broadcast | .dispatch .. | .remove .. | .resolve => true
  | _ => false

/-- Makes one move; records are gone through in the order that `visit` makes. -/
def perform (visit : List Origin → List Origin) (s : Session σ δ ε) (move : Move ε) :
    Outcome σ δ ε κ :=
  if Move.needsDispatcher move ∧ s.standing ≠ .owned then
    { session := s, signal := .answered .gone }
  else match move with
    | .add origin endpoint => s.add origin endpoint
    | .broadcast => s.broadcast visit
    | .dispatch origin => s.fanOut [] .request origin
    | .remove r => s.remove r
    | .resolve => s.resolve
    | .disconnect r =>
        let (d, events) := s.dispatcher.remove r
        { session := { s with dispatcher := d }, notes := s.noted events,
          signal := .answered .done }
    | .letGo => s.letGo
    | .travel t => s.travel t
    | .resume => s.resume
    | .proceed => s.proceed

end Session

end Cadence.Broadcast
