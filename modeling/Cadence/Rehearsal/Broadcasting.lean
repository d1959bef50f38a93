import Cadence.Agenda
import Cadence.Executor
import Cadence.Rehearsal.Reply

/-!
# Rehearsals of a dispatcher

Runs a dispatcher session against endpoints that are known by labels. A
recording endpoint writes down each notice, follows a script inside it, and runs
the registration it holds when it is disconnected. A channel endpoint is a
channel listener; a watched one has a task that waits for its receiver to go.
-/

namespace Cadence.Rehearsal.Broadcasting

open Cadence.Broadcast

-- whoever sets a stage says what its timeline has for watchers
export Cadence (Signals)

inductive Kind
  | recording | channel | watched
deriving DecidableEq, Inhabited

inductive Step
  | make (label : String) (origin : Origin) (kind : Kind)
  | add (label : String) (origin : Origin) (kind : Kind)
  | disconnect (label : String)
  | notify (label : String)
  | broadcast
  | dispatch (origin : Origin)
  | remove (registration : Registration)
  | letGo
  | record (origin : Origin)
  | interval
  | intervalCalls
  | stats
  | describe
  | listener (label : String)
  | dropListener (label : String)
  | receive (label : String)
  | receiveAll (label : String)
  | poll (label : String)
  | close (label : String)
  | dropReceiver (label : String)
  | travel (travel : Travel)
deriving Inhabited

/-- Work that is posted by endpoints. -/
inductive Posted
  | handler (registration : Registration)
  | watch (label : String)

/-- An endpoint. A channel endpoint is `held` as long as its label still stands
for the listener; `watch` is the task that also holds the sending end. -/
inductive Endpoint
  | recording (origin : Origin) (handler : Option Registration)
  | channel (channel : Channel Registration) (held : Bool) (watch : Option TaskId)

/-- A script under way. A `direct` one runs inside a notice that no fan-out made. -/
structure Cue where
  label : Option String := none
  direct : Bool := false
  begun : Option Step := none
  rest : List Step

/-- A session and its endpoints. `scripts` holds what each endpoint does inside
its notices. -/
structure Stage (σ δ : Type) where
  session : Session σ δ String
  endpoints : List (String × Endpoint) := []
  scripts : List (String × List (List Step)) := []
  countsCalls : Bool := false
  cues : List Cue := []
  signal : Signal String Posted := .quiet
  notes : List Note := []
  deliveries : List (Span × String × Origin) := []
  nested : List (String × Step × Reply) := []
  reply : Reply := .nothing

namespace Stage

variable {σ δ : Type} [Timeline σ δ (Errand Posted)] [Signals σ (Errand Posted)]

def endpoint? (w : Stage σ δ) (label : String) : Option Endpoint := w.endpoints.lookup label

def setEndpoint (w : Stage σ δ) (label : String) (e : Endpoint) : Stage σ δ :=
  { w with endpoints := w.endpoints.map fun (l, old) => if l = label then (l, e) else (l, old) }

def registered (w : Stage σ δ) (label : String) : Bool :=
  w.session.dispatcher.records.any fun (_, r) => r.listeners.any (·.2 == label)

/-- A channel listener is held by its label and by the dispatcher, or else it goes away. -/
def reclaim (w : Stage σ δ) (label : String) : Stage σ δ :=
  match w.endpoint? label with
  | some (.channel c held watch) =>
      let (c, timers) := c.reclaim (held || w.registered label) w.session.timers
      { w with session := { w.session with timers } }.setEndpoint label (.channel c held watch)
  | _ => w

def reclaimAll (w : Stage σ δ) : Stage σ δ :=
  w.endpoints.foldl (fun w (label, _) => w.reclaim label) w

/-- Takes in the outcome of a move. -/
def absorb (w : Stage σ δ) (out : Outcome σ δ String Posted) : Stage σ δ :=
  { w with session := out.session, signal := out.signal, notes := w.notes ++ out.notes }.reclaimAll

/-- Makes a move. Records are gone through in the order of their creation. -/
def move (w : Stage σ δ) (m : Move String) : Stage σ δ := w.absorb (w.session.perform id m)

/-- Hands a reply to the script whose step it answers. -/
def deliver (w : Stage σ δ) (reply : Reply) : Stage σ δ :=
  let w := { w with signal := .quiet }
  match w.cues with
  | cue :: rest =>
      let w := { w with cues := { cue with begun := none } :: rest }
      match cue.label, cue.begun with
      | some label, some step => { w with nested := w.nested ++ [(label, step, reply)] }
      | _, _ => { w with reply }
  | [] => { w with reply }

def replyOf : Answer → Reply
  | .done => .nothing
  | .gone => .gone
  | .registered id => .count id
  | .verdict .accepted => .flag true
  | .verdict .suppressed => .flag false
  | .verdict .unreadableClock => .unreadableClock
  | .interval interval => .span interval
  | .dropped existed => .flag existed
  | .arrived arrival => .ofArrival arrival

/-- Puts a changed channel and the timers back, and logs what happened. -/
def setChannel (w : Stage σ δ) (label : String) (c : Channel Registration) (held : Bool)
    (watch : Option TaskId) (timers : σ) (events : List Event) : Stage σ δ :=
  { w with
    session := { w.session with timers }
    notes := w.notes ++ w.session.noted events }.setEndpoint label (.channel c held watch)

/-- A posted registration. -/
def post (r : Registration) : Errand Posted := .posted (.handler r)

/-- Writes a notice down and begins the script that runs inside it. -/
def recordNotice (w : Stage σ δ) (label : String) (origin : Origin) (direct : Bool) :
    Stage σ δ :=
  let (script, rest) := takeScript ((w.scripts.lookup label).getD [])
  { w with
    signal := .quiet
    deliveries := w.deliveries ++ [(Timeline.elapsed δ w.session.timers, label, origin)]
    scripts := w.scripts.map fun (l, s) => if l = label then (l, rest) else (l, s)
    cues := { label := some label, direct, rest := script } :: w.cues }

/-- A channel listener is notified. -/
def notifyChannel (w : Stage σ δ) (label : String) (c : Channel Registration) (held : Bool)
    (watch : Option TaskId) : Stage σ δ :=
  let (c, timers, events) := c.notify post w.session.timers
  w.setChannel label c held watch timers events

def called (w : Stage σ δ) (call : Call String Posted) : Stage σ δ :=
  match call with
  | .install label r =>
      match w.endpoint? label with
      | some (.recording origin _) =>
          (w.setEndpoint label (.recording origin (some r))).move .resume
      | some (.channel c held watch) =>
          let (c, timers) := c.onDisconnect post w.session.timers r
          (w.setChannel label c held watch timers []).move .resume
      | none => w.move .resume
  | .notify label =>
      match w.endpoint? label with
      | some (.recording origin _) => w.recordNotice label origin false
      | some (.channel c held watch) => (w.notifyChannel label c held watch).move .resume
      | none => w.move .resume
  | .work (.handler r) => (w.move (.disconnect r)).move .resume
  | .work (.watch label) =>
      match w.endpoint? label with
      | some (.channel c held watch) =>
          let (c, timers, events) := c.wake post w.session.timers
          (w.setChannel label c held watch timers events).move .resume
      | _ => w.move .resume

/-- Makes an endpoint unless its label is taken. -/
def make (w : Stage σ δ) (label : String) (origin : Origin) (kind : Kind) : Stage σ δ :=
  if (w.endpoint? label).isSome then w
  else
    let plain (w : Stage σ δ) (e : Endpoint) : Stage σ δ :=
      { w with endpoints := w.endpoints ++ [(label, e)] }
    match kind with
    | .recording => plain w (.recording origin none)
    | .channel => plain w (.channel { origin } true none)
    | .watched =>
        let (c, timers) := Channel.watched origin (.posted (.watch label)) w.session.timers
        plain { w with session := { w.session with timers } } (.channel c true c.watcher)

/-- Answers a question about a dispatcher that is still there. -/
def query (w : Stage σ δ) (answer : Dispatcher String → Reply) : Stage σ δ :=
  w.deliver (if w.session.standing = .owned then answer w.session.dispatcher else .gone)

/-- Changes a channel whose receiver is still there. -/
def withReceiver (w : Stage σ δ) (label : String)
    (f : Channel Registration → Option TaskId → Reply × Channel Registration)
    (otherwise : Reply) : Stage σ δ :=
  match w.endpoint? label with
  | some (.channel c held watch) =>
      if c.receiver = .dropped then w.deliver otherwise
      else
        let (reply, c) := f c watch
        (w.setEndpoint label (.channel c held watch)).deliver reply
  | _ => w.deliver otherwise

/-- Ends a receiver that is still there, which wakes the task that watches it. -/
def endReceiver (w : Stage σ δ) (label : String) (reply otherwise : Reply)
    (f : Channel Registration → Channel Registration) : Stage σ δ :=
  match w.endpoint? label with
  | some (.channel c held watch) =>
      if c.receiver = .dropped then w.deliver otherwise
      else
        let timers := Channel.alert watch w.session.timers
        ({ w with session := { w.session with timers } }.setEndpoint label
          (.channel (f c) held watch)).deliver reply
  | _ => w.deliver otherwise

def noticeReply : Option Notice → Reply
  | some n => .notice n
  | none => .nothing

def perform (w : Stage σ δ) : Step → Stage σ δ
  | .make label origin kind => (w.make label origin kind).deliver .nothing
  | .add label origin kind =>
      let w := w.make label origin kind
      match w.endpoint? label with
      | some (.channel _ false _) => w.deliver .gone
      | _ => w.move (.add origin label)
  | .disconnect label =>
      match w.endpoint? label with
      | some (.recording origin (some r)) =>
          let w := (w.setEndpoint label (.recording origin none)).move (.disconnect r)
          w.deliver (.flag true)
      | some (.recording _ none) => w.deliver (.flag false)
      | some (.channel c true watch) =>
          let (c, timers, events) := c.disconnect post w.session.timers
          (w.setChannel label c true watch timers events).deliver .nothing
      | _ => w.deliver .gone
  | .notify label =>
      match w.endpoint? label with
      | some (.recording origin _) => w.recordNotice label origin true
      | some (.channel c true watch) => (w.notifyChannel label c true watch).deliver .nothing
      | _ => w.deliver .gone
  | .broadcast => w.move .broadcast
  | .dispatch origin => w.move (.dispatch origin)
  | .remove r => w.move (.remove r)
  | .letGo => w.move .letGo
  | .record origin => w.query fun d => .record (d.listenerCount origin) (d.randomDelay origin)
  | .interval => w.move .resolve
  | .intervalCalls =>
      w.deliver (.count (if w.countsCalls then w.session.dispatcher.intervals.asked else 0))
  | .stats => w.query fun d => .stats d.stats
  | .describe => w.query fun d => .text d.describe
  | .listener label =>
      w.deliver <| match w.endpoint? label with
        | some (.channel c true _) => .listener c.origin c.sent c.disconnected c.describe
        | _ => .gone
  | .dropListener label =>
      match w.endpoint? label with
      | some (.channel c true watch) =>
          ((w.setEndpoint label (.channel c false watch)).reclaim label).deliver (.flag true)
      | _ => w.deliver (.flag false)
  | .receive label =>
      w.withReceiver label (fun c _ => let (n, c) := c.receive; (noticeReply n, c)) .gone
  | .receiveAll label =>
      w.withReceiver label (fun c _ => (.notices c.buffer, { c with buffer := [] })) .gone
  | .poll label =>
      w.withReceiver label (fun c watch =>
        match c.poll (c.sending watch w.session.timers) with
        | (.notice n, c) => (.notice n, c)
        | (.waiting, c) => (.pending, c)
        | (.ended, c) => (.nothing, c)) .gone
  | .close label => w.endReceiver label .nothing .gone Channel.close
  | .dropReceiver label => w.endReceiver label (.flag true) (.flag false) Channel.dropReceiver
  | .travel t => w.move (.travel t)

/-- Whether the next thing to happen is a turn of a drive. -/
def drives (w : Stage σ δ) : Bool :=
  match w.session.frames with
  | .travelling _ :: _ => true
  | _ => false

/-- The next thing that happens, if anything does. -/
def tick (w : Stage σ δ) : Option (Stage σ δ) :=
  match w.signal with
  | .called call => some (w.called call)
  | .answered answer => some (w.deliver (replyOf answer))
  | .quiet =>
      if w.drives then some (w.move .proceed)
      else match w.cues with
        | [] => none
        | cue :: rest =>
            match cue.rest with
            | step :: later =>
                some ({ w with
                  cues := { cue with begun := some step, rest := later } :: rest }.perform step)
            | [] =>
                let w := { w with cues := rest }
                some (if cue.direct then w.deliver .nothing
                  else if cue.label.isSome then w.move .resume
                  else w)

/-- Goes on until nothing happens any more. -/
def run : Nat → Stage σ δ → Stage σ δ
  | 0, w => w
  | fuel + 1, w =>
      match w.tick with
      | some w => run fuel w
      | none => w

/-- Performs a step from outside, with everything that follows from it. -/
def play (w : Stage σ δ) (step : Step) : Stage σ δ :=
  { w with notes := [], deliveries := [], nested := [], reply := .nothing,
           cues := [{ rest := [step] }] }.run budget

/-- The stage after each of the steps. -/
def playAll (w : Stage σ δ) : List Step → List (Stage σ δ)
  | [] => []
  | step :: rest =>
      let w := w.play step
      w :: playAll w rest

end Stage

/-- Whether one delivery is listed before another: by time, then by the origin
that its endpoint was made with. -/
def deliveryLe (a b : Span × String × Origin) : Bool :=
  a.1 < b.1 || (a.1 == b.1 && !(b.2.2.text < a.2.2.text))

/-- Deliveries by time and then by origin, each origin's in their order. -/
def sortDeliveries (deliveries : List (Span × String × Origin)) :
    List (Span × String × Origin) :=
  deliveries.mergeSort deliveryLe

end Cadence.Rehearsal.Broadcasting
