import Cadence.Failure
import Cadence.Folder
import Cadence.Logging.Line

/-!
# Setting the log up

The log is set up once. An attempt checks in this order: that none has succeeded,
the filter, the file, and that nobody else already receives the events. From then
on the events that the filter lets through are appended to the file.
-/

namespace Cadence.Logging

/-- Where lines go. -/
structure Sink where
  filter : Filter
  format : LineFormat
  file : Option (List String)

/-- The log of a process: whether it was set up, whether the events have a receiver,
the sink and the files. -/
structure State where
  initialized : Bool := false
  received : Bool := false
  sink : Option Sink := none
  folder : Folder := {}

/-- What is said of events that already have a receiver. -/
def alreadyReceived : String := "a global default trace dispatcher has already been set"

def State.emit (s : State) (n : Note) : State :=
  match s.sink with
  | some { filter, format, file := some file } =>
      match filter.admits? n with
      | some spans =>
          let text := line format spans n.event ++ "\n"
          { s with folder := s.folder.append file text.toUTF8.toList }
      | none => s
  | _ => s

/-- The filter to use: the one of the environment if it can be read, else the one of
the settings. -/
def chooseFilter (environment : Option String) (settings : LogSettings) :
    Except LoggingFailure Filter :=
  match environment.bind Filter.read? with
  | some filter => .ok filter
  | none =>
      match Filter.read? settings.level with
      | some filter => .ok filter
      | none => .error (.badLevel settings.level)

/-- Opens the file of the settings, if they name one. -/
def State.openFile (s : State) (settings : LogSettings) :
    State × Except LoggingFailure (Option (List String)) :=
  match settings.file with
  | none => (s, .ok none)
  | some path =>
      let (folder, result) := s.folder.openLog path
      ({ s with folder },
        match result with
        | .ok names => .ok (some names)
        | .error e => .error (.fileNotCreated e.message))

/-- Sets the log up and logs that it is. -/
def State.setUp (s : State) (environment : Option String) (settings : LogSettings) :
    State × Except LoggingFailure Unit :=
  if s.initialized then (s, .error .alreadyInitialized)
  else
    match chooseFilter environment settings with
    | .error e => (s, .error e)
    | .ok filter =>
        match s.openFile settings with
        | (s, .error e) => (s, .error e)
        | (s, .ok file) =>
            if s.received then (s, .error (.subscriberNotSet alreadyReceived))
            else
              let s := { s with
                initialized := true
                received := true
                sink := some { filter, format := settings.format, file } }
              (s.emit ⟨.loggingReady settings.level settings.format.text settings.file, []⟩,
                .ok ())

end Cadence.Logging
