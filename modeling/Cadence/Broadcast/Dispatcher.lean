import Cadence.Broadcast.Stats
import Cadence.Delay
import Cadence.Timeline

/-!
# The dispatcher of origins

Listeners register for an origin. The first one creates the origin's record and
draws its delay; the last one to leave destroys the record. A broadcast is
accepted at most once per interval and schedules one fan-out for each record,
after that record's delay. A fan-out notifies the listeners that were registered
when it began and still are at their turn.
-/

namespace Cadence.Broadcast

/-- The number of a registration. -/
abbrev EndpointId := Nat

/-- The number of a scheduled fan-out. -/
abbrev Ticket := Nat

/-- Where the interval comes from: `answer k` is what it says when asked for the
`k`-th time, and `asked` counts the times. -/
structure IntervalSource where
  answer : Nat → Span
  asked : Nat := 0

/-- The delay of an origin and its listeners by ascending registration. -/
structure Record (ε : Type) where
  delay : Span
  listeners : List (EndpointId × ε) := []

/-- The registration that a listener gives up when its peer is gone. -/
structure Registration where
  origin : Origin
  id : EndpointId
deriving DecidableEq

/-- A task put off for a dispatcher: a fan-out, or work of somebody else. -/
inductive Errand (κ : Type)
  | fanOut (origin : Origin) (ticket : Ticket)
  | posted (work : κ)

/-- Records, counters and the interval, once it has been asked for. -/
structure Dispatcher (ε : Type) where
  intervals : IntervalSource
  delays : DelaySource
  interval : Option Span := none
  lastDispatch : Option Span := none
  records : List (Origin × Record ε) := []
  nextEndpoint : EndpointId := 0
  nextTicket : Ticket := 0
  inFlight : List (Ticket × TaskId) := []
  stats : Stats := {}

inductive Verdict
  | accepted
  | suppressed
  /-- The clock could not be read. -/
  | unreadableClock
deriving DecidableEq

namespace Dispatcher

variable {ε σ κ : Type} [TimerService σ (Errand κ)]

def record? (d : Dispatcher ε) (origin : Origin) : Option (Record ε) :=
  d.records.lookup origin

def listener? (d : Dispatcher ε) (origin : Origin) (id : EndpointId) : Option ε :=
  (d.record? origin).bind (·.listeners.lookup id)

def updateRecord (d : Dispatcher ε) (origin : Origin) (f : Record ε → Record ε) :
    Dispatcher ε :=
  { d with records := d.records.map fun (o, r) => if o = origin then (o, f r) else (o, r) }

/-- The interval; the source is asked only the first time. -/
def resolveInterval (d : Dispatcher ε) : Span × Dispatcher ε × List Event :=
  match d.interval with
  | some interval => (interval, d, [])
  | none =>
      let interval := d.intervals.answer d.intervals.asked
      (interval,
        { d with
          interval := some interval
          intervals := { d.intervals with asked := d.intervals.asked + 1 } },
        [.resolvedInterval interval])

/-- Makes sure that an origin has a record, drawing its delay if it is new. -/
def ensureRecord (d : Dispatcher ε) (origin : Origin) : Dispatcher ε × List Event :=
  if (d.record? origin).isSome then (d, [])
  else
    let (interval, d, events) := d.resolveInterval
    let (delay, delays) := d.delays.delayWithin interval
    ({ d with delays, records := d.records ++ [(origin, { delay })] },
      events ++ [.creatingRecord origin delay])

/-- Registers a listener under a fresh number. -/
def add (d : Dispatcher ε) (origin : Origin) (endpoint : ε) :
    EndpointId × Dispatcher ε × List Event :=
  let id := d.nextEndpoint
  let (d, events) := { d with nextEndpoint := id + 1 }.ensureRecord origin
  (id, d.updateRecord origin fun r => { r with listeners := r.listeners ++ [(id, endpoint)] },
    events)

/-- Whether a broadcast at `now` falls into the interval after the last one. -/
def debounced (d : Dispatcher ε) (interval now : Span) : Bool :=
  match d.lastDispatch with
  | some last => now - last < interval
  | none => false

def scheduleFanOut (state : Dispatcher ε × σ) (origin : Origin) : Dispatcher ε × σ :=
  let (d, timers) := state
  match d.record? origin with
  | none => state
  | some record =>
      let (id, timers) :=
        TimerService.schedule timers record.delay (Errand.fanOut origin d.nextTicket)
      ({ d with
          nextTicket := d.nextTicket + 1
          inFlight := d.inFlight ++ [(d.nextTicket, id)] }, timers)

/-- A broadcast at the clock reading `now`. The records are gone through in the
order that `visit` makes of their origins. -/
def broadcast (visit : List Origin → List Origin) (d : Dispatcher ε) (timers : σ)
    (now : Option Span) : Verdict × Dispatcher ε × σ × List Event :=
  let (interval, d, events) := d.resolveInterval
  match now with
  | none => (.unreadableClock, d, timers, events)
  | some now =>
      if d.debounced interval now then
        (.suppressed, { d with stats := { d.stats with suppressed := d.stats.suppressed + 1 } },
          timers, events ++ [.suppressed])
      else
        let d := { d with
          lastDispatch := some now
          stats := { d.stats with dispatches := d.stats.dispatches + 1 } }
        let (d', timers) := (visit (d.records.map Prod.fst)).foldl scheduleFanOut (d, timers)
        (.accepted, d', timers, events ++ [.dispatching d.records.length])

/-- Begins a fan-out: its ticket is cleared, and the numbers registered now are
to be notified. Without a record there is nothing to do. -/
def startFanOut (d : Dispatcher ε) (origin : Origin) (ticket : Option Ticket) :
    Option (List EndpointId) × Dispatcher ε × List Event :=
  let d := match ticket with
    | some t => { d with inFlight := d.inFlight.eraseP (·.1 = t) }
    | none => d
  match d.record? origin with
  | some record =>
      (some (record.listeners.map Prod.fst),
        { d with stats := { d.stats with fanouts := d.stats.fanouts + 1 } }, [])
  | none =>
      match ticket with
      | some _ =>
          (none, { d with stats := { d.stats with droppedFanouts := d.stats.droppedFanouts + 1 } },
            [.recordGone origin])
      | none => (none, d, [])

/-- The next listener of a fan-out that is still registered, and those after it. -/
def nextListener (d : Dispatcher ε) (origin : Origin) :
    List EndpointId → Option (EndpointId × ε × List EndpointId)
  | [] => none
  | id :: rest =>
      match d.listener? origin id with
      | some endpoint => some (id, endpoint, rest)
      | none => d.nextListener origin rest

def countNotification (d : Dispatcher ε) : Dispatcher ε :=
  { d with stats := { d.stats with notifications := d.stats.notifications + 1 } }

/-- Takes a registration back; the record goes with its last listener. A number
that is not registered for the origin is ignored. -/
def remove (d : Dispatcher ε) (r : Registration) : Dispatcher ε × List Event :=
  match d.listener? r.origin r.id with
  | none => (d, [])
  | some _ =>
      let d := d.updateRecord r.origin fun record =>
        { record with listeners := record.listeners.eraseP (·.1 = r.id) }
      let empty := ((d.record? r.origin).map (·.listeners.isEmpty)).getD false
      if empty then
        ({ d with records := d.records.eraseP (·.1 = r.origin) },
          [.destroyingRecord r.origin, .listenerGone r.origin r.id])
      else (d, [.listenerGone r.origin r.id])

/-- The dispatcher goes away: no fan-out stays scheduled and no record is left. -/
def close (d : Dispatcher ε) (timers : σ) : Dispatcher ε × σ × List Event :=
  ({ d with records := [], inFlight := [] },
    d.inFlight.foldl (fun timers (_, id) => TimerService.cancel timers id) timers,
    [.droppingDispatcher d.records.length])

def originCount (d : Dispatcher ε) : Nat := d.records.length

def listenerCount (d : Dispatcher ε) (origin : Origin) : Nat :=
  ((d.record? origin).map (·.listeners.length)).getD 0

def randomDelay (d : Dispatcher ε) (origin : Origin) : Option Span :=
  (d.record? origin).map (·.delay)

/-- How many fan-outs are scheduled and have not run. -/
def pendingFanouts (d : Dispatcher ε) : Nat := d.inFlight.length

end Dispatcher

def describeSpan : Option Span → String
  | none => "None"
  | some d => "Some(" ++ d.text ++ ")"

def Dispatcher.describe {ε : Type} (d : Dispatcher ε) : String :=
  "OriginEventDispatcher \x7b origins: " ++ Text.decimal d.originCount
    ++ ", interval: " ++ describeSpan d.interval
    ++ ", last_dispatched_at: " ++ describeSpan d.lastDispatch
    ++ ", stats: " ++ d.stats.describe ++ " \x7d"

end Cadence.Broadcast
