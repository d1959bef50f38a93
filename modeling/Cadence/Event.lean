import Cadence.Origin
import Cadence.Span

/-!
# Logged events

Everything that the components report about themselves, as data. A line of the
log is made from an event by its level, target, message and fields; a note is
an event together with the fan-outs that were open around it.
-/

namespace Cadence

/-- How detailed an event is, from the gravest to the finest. -/
inductive Level
  | error | warn | info | debug | trace
deriving DecidableEq, Inhabited

namespace Level

/-- The position of a level, higher for finer ones. -/
def rank : Level → Nat
  | error => 1
  | warn => 2
  | info => 3
  | debug => 4
  | trace => 5

def label : Level → String
  | error => "ERROR"
  | warn => "WARN"
  | info => "INFO"
  | debug => "DEBUG"
  | trace => "TRACE"

end Level

/-- What runs the tasks that are put off. -/
inductive TaskRunner
  | agenda | executor
deriving DecidableEq

/-- A field of an event: a number, or the text of a value. -/
inductive FieldValue
  | number (n : Nat)
  | text (s : String)
deriving DecidableEq

def FieldValue.shown : FieldValue → String
  | number n => Text.decimal n
  | text s => s

/-- An event of one of the components. -/
inductive Event
  | runningTask (runner : TaskRunner) (id : Nat)
  | acquiringPause (sources : Nat)
  | releasingPause
  | armingRelease (source : Nat) (grace : Span)
  | resolvedInterval (interval : Span)
  | creatingRecord (origin : Origin) (delay : Span)
  | suppressed
  | dispatching (origins : Nat)
  | recordGone (origin : Origin)
  | notifying (origin : Origin) (endpoint : Nat)
  | destroyingRecord (origin : Origin)
  | listenerGone (origin : Origin) (endpoint : Nat)
  | droppingDispatcher (origins : Nat)
  | channelClosed (origin : Origin)
  | rekeyed (scope root moved : Nat)
  | unknownScope (scope : Nat)
  | creatingLog (root capacity : Nat)
  | destroyingLog (root dropped : Nat)
  | loadedSettings (path : String) (capacity intervalSecs : Nat)
  | loggingReady (level format : String) (file : Option String)
deriving DecidableEq

namespace Event

def level : Event → Level
  | loggingReady .. => .info
  | runningTask .. | suppressed | notifying .. | listenerGone .. | rekeyed .. => .trace
  | _ => .debug

def target : Event → String
  | runningTask .agenda _ => "plumbkit_core::sequence"
  | runningTask .executor _ => "plumbkit_core::tokio_driver"
  | acquiringPause .. | releasingPause | armingRelease .. => "plumbkit_core::pause"
  | channelClosed .. => "plumbkit_core::transport"
  | rekeyed .. | unknownScope .. | creatingLog .. | destroyingLog .. =>
      "plumbkit_core::incident_log"
  | loadedSettings .. => "plumbkit_core::config"
  | loggingReady .. => "plumbkit_core::logging"
  | _ => "plumbkit_core::dispatcher"

def message : Event → String
  | runningTask .. => "running task"
  | acquiringPause .. => "acquiring pause"
  | releasingPause => "releasing pause"
  | armingRelease .. => "arming release timer"
  | resolvedInterval .. => "resolved dispatch interval"
  | creatingRecord .. => "creating origin record"
  | suppressed => "dispatch suppressed by debounce window"
  | dispatching .. => "dispatching quota change"
  | recordGone .. => "record gone, dropping fan-out"
  | notifying .. => "notifying listener"
  | destroyingRecord .. => "last listener gone, destroying record"
  | listenerGone .. => "listener disconnected"
  | droppingDispatcher .. => "dropping dispatcher"
  | channelClosed .. => "listener channel closed"
  | rekeyed .. => "re-keyed incidents"
  | unknownScope .. => "dropping incident for unknown scope"
  | creatingLog .. => "creating incident log"
  | destroyingLog .. => "destroying incident log"
  | loadedSettings .. => "Loaded plumbing config"
  | loggingReady .. => "Logging initialized"

def describeFile : Option String → String
  | none => "None"
  | some file => "Some(" ++ Text.quoted file ++ ")"

/-- The fields of an event, in the order in which lines show them. -/
def fields : Event → List (String × FieldValue)
  | runningTask _ id => [("task_id", .number id)]
  | acquiringPause sources => [("sources", .number sources)]
  | armingRelease source grace =>
      [("source_id", .text (Text.decimal source)), ("grace", .text grace.text)]
  | resolvedInterval interval => [("interval", .text interval.text)]
  | creatingRecord origin delay => [("origin", .text origin.text), ("delay", .text delay.text)]
  | dispatching origins | droppingDispatcher origins => [("origins", .number origins)]
  | recordGone origin | destroyingRecord origin | channelClosed origin =>
      [("origin", .text origin.text)]
  | notifying origin endpoint | listenerGone origin endpoint =>
      [("origin", .text origin.text), ("endpoint_id", .text (Text.decimal endpoint))]
  | rekeyed scope root moved =>
      [("scope_id", .text (Text.decimal scope)), ("root_scope", .text (Text.decimal root)),
        ("moved", .number moved)]
  | unknownScope scope => [("scope_id", .text (Text.decimal scope))]
  | creatingLog root capacity =>
      [("root_scope", .text (Text.decimal root)), ("capacity", .number capacity)]
  | destroyingLog root dropped =>
      [("root_scope", .text (Text.decimal root)), ("dropped", .number dropped)]
  | loadedSettings path capacity intervalSecs =>
      [("path", .text path), ("capacity", .number capacity),
        ("event_interval_secs", .number intervalSecs)]
  | loggingReady level format file =>
      [("log_level", .text level), ("log_format", .text format),
        ("log_file", .text (describeFile file))]
  | suppressed | releasingPause => []

end Event

/-- An event and the origins of the fan-outs open around it, outermost first. -/
structure Note where
  event : Event
  spans : List Origin := []
deriving DecidableEq

end Cadence
