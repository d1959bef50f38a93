import Cadence.Json.Document
import Cadence.Timeline

/-!
# Channel listeners

A listener pushes numbered notices into a buffer that its receiver drains. When
the receiver is closed or gone, a send fails and the listener counts as
disconnected: it posts the registration it holds as a task, and never runs it
itself. A watched listener also has a task that notices the end of the receiver
without a send.
-/

namespace Cadence

structure Notice where
  origin : String
  sequence : Nat
deriving DecidableEq

def Notice.toJson (n : Notice) : Json :=
  .object [("origin", .string n.origin), ("sequence", .nat n.sequence)]

def Notice.ofJson? (x : Json) : Option Notice := do
  let f ← Document.fields? ["origin", "sequence"] false x
  return ⟨← Document.required (f "origin") Document.string?,
    ← Document.required (f "sequence") Document.word?⟩

inductive Receiver
  | accepting
  /-- Accepts nothing more; what is buffered can still be drained. -/
  | closed
  | dropped
deriving DecidableEq

/-- What waiting for the next notice finds at once. -/
inductive Reception
  | notice (notice : Notice)
  | waiting
  | ended
deriving DecidableEq

/-- Both ends of a channel; `η` is what the listener posts when it disconnects. `watcher` is
the task that watches for the receiver to go, until the listener stops it. -/
structure Channel (η : Type) where
  origin : Origin
  disconnected : Bool := false
  sent : Nat := 0
  handler : Option η := none
  watcher : Option TaskId := none
  alive : Bool := true
  buffer : List Notice := []
  receiver : Receiver := .accepting

namespace Channel

section Watching

variable {η σ τ : Type} [Signals σ τ]

/-- A new listener with a task of its own, which waits for the receiver to go. On a timeline
without such tasks nobody watches for it. -/
def watched (origin : Origin) (watch : τ) (timers : σ) : Channel η × σ :=
  match Signals.spawn timers watch with
  | some (id, timers) => ({ origin, watcher := some id }, timers)
  | none => ({ origin }, timers)

/-- The receiver goes, which wakes the task that watches for that. -/
def alert (watch : Option TaskId) (timers : σ) : σ :=
  watch.elim timers (Signals.raise timers)

/-- Whether anything still holds the sending end: the listener does, and so does the task that
watches, until it has ended or been thrown away. -/
def sending (c : Channel η) (watch : Option TaskId) (timers : σ) : Bool :=
  c.alive || (watch.map (Signals.holds timers)).getD false

end Watching

variable {η σ τ : Type} [TimerService σ τ]

def stopWatching (c : Channel η) (timers : σ) : Channel η × σ :=
  ({ c with watcher := none },
    match c.watcher with
    | some id => TimerService.cancel timers id
    | none => timers)

/-- Posts the handler, if there is one, as a task without delay. -/
def postHandler (post : η → τ) (c : Channel η) (timers : σ) : Channel η × σ :=
  ({ c with handler := none },
    match c.handler with
    | some h => (TimerService.schedule timers .zero (post h)).2
    | none => timers)

/-- Disconnects the listener; a second time changes nothing. -/
def disconnect (post : η → τ) (c : Channel η) (timers : σ) :
    Channel η × σ × List Event :=
  if c.disconnected then (c, timers, [])
  else
    let (c, timers) := { c with disconnected := true }.stopWatching timers
    let (c, timers) := c.postHandler post timers
    (c, timers, [.channelClosed c.origin])

/-- What the task that watches does once it is woken: a listener that is still there
disconnects. -/
def wake (post : η → τ) (c : Channel η) (timers : σ) : Channel η × σ × List Event :=
  if c.alive then c.disconnect post timers else (c, timers, [])

/-- Sends one notice, or disconnects if the receiver takes none. -/
def notify (post : η → τ) (c : Channel η) (timers : σ) : Channel η × σ × List Event :=
  if c.disconnected then (c, timers, [])
  else if c.receiver = .accepting then
    let sent := c.sent + 1
    ({ c with sent, buffer := c.buffer ++ [⟨c.origin.text, sent⟩] }, timers, [])
  else c.disconnect post timers

/-- Takes the handler for the end of the connection in place of an older one,
and posts it at once if the end has already come. -/
def onDisconnect (post : η → τ) (c : Channel η) (timers : σ) (handler : η) :
    Channel η × σ :=
  let c := { c with handler := some handler }
  if c.disconnected ∨ c.receiver ≠ .accepting then
    { c with disconnected := true }.postHandler post timers
  else (c, timers)

def dropListener (c : Channel η) (timers : σ) : Channel η × σ :=
  if c.alive then { c with alive := false }.stopWatching timers else (c, timers)

/-- A listener that nobody holds goes away. -/
def reclaim (c : Channel η) (held : Bool) (timers : σ) : Channel η × σ :=
  if held then (c, timers) else c.dropListener timers

def receive (c : Channel η) : Option Notice × Channel η :=
  match c.buffer with
  | [] => (none, c)
  | n :: rest => (some n, { c with buffer := rest })

/-- Waits for a notice without passing time. `sending` says whether anything
still holds the sending end. -/
def poll (c : Channel η) (sending : Bool) : Reception × Channel η :=
  match c.receive with
  | (some n, c) => (.notice n, c)
  | (none, c) => (if sending && c.receiver = .accepting then .waiting else .ended, c)

def close (c : Channel η) : Channel η :=
  if c.receiver = .accepting then { c with receiver := .closed } else c

/-- The receiver goes away with what it holds. -/
def dropReceiver (c : Channel η) : Channel η :=
  { c with receiver := .dropped, buffer := [] }

def describe (c : Channel η) : String :=
  "ChannelListener \x7b origin: " ++ c.origin.describe ++ ", disconnected: "
    ++ (if c.disconnected then "true" else "false") ++ ", sent: " ++ Text.decimal c.sent ++ " \x7d"

end Channel

end Cadence
