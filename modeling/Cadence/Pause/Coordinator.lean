import Cadence.Json.Document
import Cadence.Timer

/-!
# The pause coordinator

A pause is held while sources are busy and, if a grace was asked for, for that
long after the last of them went quiet. The coordinator calls its collaborators
(the provider of the pause and the signaller of the sources), and they may call
back. So an operation runs up to its next call out and says there at which stage
it goes on once that call has returned.
-/

namespace Cadence.Pause

abbrev SourceId := Nat

/-- The task of the release timer, for one generation of the timer. -/
structure Alarm where
  generation : UInt64
deriving DecidableEq

/-- A call to a collaborator. -/
inductive Call
  | acquire
  | release
  | observe (source : SourceId)
  | unobserve (source : SourceId)
  | allSources
deriving DecidableEq

/-- What the coordinator is doing at a glance. -/
inductive Status
  | idle | active | trailing
deriving DecidableEq, Inhabited

/-- Observed sources in ascending order, whether the pause is held, the longest
grace asked for since the sources were last quiet, and the release timer. -/
structure Coordinator where
  observed : List SourceId := []
  held : Bool := false
  grace : Span := .zero
  timer : OneShot := {}
deriving DecidableEq

/-- Where an operation goes on when its call out returns. -/
inductive Stage
  /-- A pause was acquired for these new sources. -/
  | acquired (added : List SourceId)
  /-- These new sources may still have to be observed. -/
  | observing (rest : List SourceId)
  /-- A source was unobserved; the pause is let go if it was given up. -/
  | unobserved (givenUp : Bool)
  /-- The sources to pause for were asked for. -/
  | listing (grace : Span)
  /-- The coordinator is going away. -/
  | closing (rest : List SourceId) (held : Bool)
  /-- Nothing remains to be done. -/
  | finished
deriving DecidableEq

/-- An operation at its next call out, or at its end. -/
structure Progress (σ : Type) where
  coordinator : Coordinator
  timers : σ
  events : List Event := []
  next : Option (Call × Stage) := none

namespace Coordinator

variable {σ : Type} [TimerService σ Alarm]

def status (c : Coordinator) : Status :=
  if !c.observed.isEmpty then .active
  else if c.timer.isRunning then .trailing
  else .idle

/-- Puts a source into an ascending list that does not hold it. -/
def insertSource (s : SourceId) : List SourceId → List SourceId
  | [] => [s]
  | x :: rest => if s < x then s :: x :: rest else x :: insertSource s rest

/-- A coordinator that gathers the sources of a pause request. -/
structure Gathering (σ : Type) where
  coordinator : Coordinator
  timers : σ
  added : List SourceId := []

/-- Takes in one source: a trailing release is called off, the grace grows to
the one asked for, and a new source is noted. -/
def gather (grace : Span) (g : Gathering σ) (s : SourceId) : Gathering σ :=
  let (timer, timers) := g.coordinator.timer.stop g.timers
  let c := { g.coordinator with timer, grace := g.coordinator.grace.max grace }
  if s ∈ c.observed then { g with coordinator := c, timers }
  else
    { coordinator := { c with observed := insertSource s c.observed }
      timers
      added := g.added ++ [s] }

/-- The next new source that is still observed is observed at the signaller. -/
def observeNext (c : Coordinator) : List SourceId → Option (Call × Stage)
  | [] => none
  | s :: rest =>
      if s ∈ c.observed then some (.observe s, .observing rest) else c.observeNext rest

/-- Pauses until every source has finished, and for `grace` longer. -/
def pause (c : Coordinator) (timers : σ) (sources : List SourceId) (grace : Span) :
    Progress σ :=
  let g := sources.foldl (gather grace) { coordinator := c, timers }
  if !sources.isEmpty && !g.coordinator.held then
    { coordinator := g.coordinator
      timers := g.timers
      events := [.acquiringPause g.added.length]
      next := some (.acquire, .acquired g.added) }
  else
    { coordinator := g.coordinator
      timers := g.timers
      next := g.coordinator.observeNext g.added }

/-- Keeps a pause that was just acquired, unless it is no longer wanted. -/
def adopt (c : Coordinator) (timers : σ) (added : List SourceId) : Progress σ :=
  let wanted := !c.observed.isEmpty || c.timer.isRunning
  if wanted && !c.held then
    let c := { c with held := true }
    { coordinator := c, timers, next := c.observeNext added }
  else { coordinator := c, timers, next := some (.release, .observing added) }

/-- Gives the pause up; it is let go by whoever asked. -/
def giveUp (c : Coordinator) : Bool × Coordinator × List Event :=
  (c.held, { c with held := false }, if c.held then [.releasingPause] else [])

/-- A source has finished. With the last one the pause is given up or, if there
is a grace, the release timer is armed for it. -/
def finish (c : Coordinator) (timers : σ) (s : SourceId) : Progress σ :=
  if s ∈ c.observed then
    let c := { c with observed := c.observed.erase s }
    if !c.observed.isEmpty then
      { coordinator := c, timers, next := some (.unobserve s, .unobserved false) }
    else if c.grace.isZero then
      let (givenUp, c, events) := c.giveUp
      { coordinator := c, timers, events, next := some (.unobserve s, .unobserved givenUp) }
    else
      let (timer, timers) := c.timer.start timers c.grace Alarm.mk
      { coordinator := { c with grace := .zero, timer }
        timers
        events := [.armingRelease s c.grace]
        next := some (.unobserve s, .unobserved false) }
  else { coordinator := c, timers }

def alarm (c : Coordinator) (timers : σ) (a : Alarm) : Progress σ :=
  match c.timer.fire a.generation with
  | none => { coordinator := c, timers }
  | some timer =>
      let (givenUp, c, events) := { c with timer }.giveUp
      { coordinator := c, timers, events
        next := if givenUp then some (.release, .finished) else none }

/-- The next call of a coordinator that goes away. -/
def closeNext (c : Coordinator) (timers : σ) (rest : List SourceId) (held : Bool)
    (events : List Event) : Progress σ :=
  match rest with
  | s :: rest =>
      { coordinator := c, timers, events, next := some (.unobserve s, .closing rest held) }
  | [] =>
      { coordinator := c, timers, events
        next := if held then some (.release, .finished) else none }

/-- The coordinator goes away: every source is unobserved in ascending order,
then the pause is let go. -/
def close (c : Coordinator) (timers : σ) : Progress σ :=
  let (timer, timers) := c.timer.stop timers
  let rest := c.observed
  let (givenUp, c, events) := { c with timer, grace := .zero, observed := [] }.giveUp
  c.closeNext timers rest givenUp events

/-- Goes on after a call out. `sources` is what the signaller answered where it
was asked for its sources. -/
def resume (c : Coordinator) (timers : σ) (sources : List SourceId) : Stage → Progress σ
  | .acquired added => c.adopt timers added
  | .observing rest => { coordinator := c, timers, next := c.observeNext rest }
  | .unobserved true => { coordinator := c, timers, next := some (.release, .finished) }
  | .unobserved false => { coordinator := c, timers }
  | .listing grace => c.pause timers sources grace
  | .closing rest held => c.closeNext timers rest held []
  | .finished => { coordinator := c, timers }

end Coordinator

def Status.text : Status → String
  | idle => "idle"
  | active => "active"
  | trailing => "trailing"

def Status.toJson (s : Status) : Json := .string s.text

def Status.ofJson? (x : Json) : Option Status :=
  Document.choice? [("idle", .idle), ("active", .active), ("trailing", .trailing)] x

def Status.describe : Status → String
  | idle => "Idle"
  | active => "Active"
  | trailing => "Trailing"

/-- A description with the state, the sources and the grace. -/
def Coordinator.describe (c : Coordinator) : String :=
  let sources := c.observed.map fun s => "SourceId(" ++ Text.decimal s ++ ")"
  "PauseCoordinator \x7b state: " ++ c.status.describe ++ ", observed: \x7b"
    ++ ", ".intercalate sources ++ "\x7d, pending_grace: " ++ c.grace.text ++ " \x7d"

end Cadence.Pause
