import Cadence.Incident.Log

/-!
# Settings

The settings of all components, in three sections. Every section and every field
has a default, so nothing needs to be given. Sections are read by the same rules
from every format of documents.
-/

namespace Cadence

/-- The form of the lines of a log. -/
inductive LineFormat
  | pretty | json
deriving DecidableEq, Inhabited

/-- The settings of incident logs. -/
structure IncidentSettings where
  /-- How many incidents each log keeps. -/
  capacity : Nat := Incident.defaultCapacity
deriving DecidableEq

structure DispatchSettings where
  /-- The least time between two broadcasts. -/
  intervalSecs : Nat := 60
deriving DecidableEq

structure LogSettings where
  /-- Which events are logged: a level or a list of directives. -/
  level : String := "info"
  format : LineFormat := .pretty
  /-- A file that is written too. -/
  file : Option String := none
deriving DecidableEq

structure Settings where
  incidents : IncidentSettings := {}
  dispatch : DispatchSettings := {}
  logging : LogSettings := {}
deriving DecidableEq

namespace LineFormat

def text : LineFormat → String
  | pretty => "pretty"
  | json => "json"

def choices : List (String × LineFormat) := [("pretty", pretty), ("json", json)]

def ofText? (name : String) : Option LineFormat :=
  choices.lookup (String.ofList (name.toList.map Char.toLower))

def unknownMessage (name : String) : String :=
  "unknown log format: " ++ name ++ ". Expected pretty or json"

end LineFormat

def DispatchSettings.interval (d : DispatchSettings) : Span := .ofSecs d.intervalSecs

section Reading

open Document

variable {ν : Type} [Document ν]

def LineFormat.ofDocument? (x : ν) : Option LineFormat := choice? LineFormat.choices x

def IncidentSettings.ofDocument? (x : ν) : Option IncidentSettings := do
  let standard : IncidentSettings := {}
  let f ← fields? ["capacity"] true x
  return { capacity := ← withDefault (f "capacity") word? standard.capacity }

def DispatchSettings.ofDocument? (x : ν) : Option DispatchSettings := do
  let standard : DispatchSettings := {}
  let f ← fields? ["event_interval_secs"] true x
  return { intervalSecs := ← withDefault (f "event_interval_secs") word? standard.intervalSecs }

def LogSettings.ofDocument? (x : ν) : Option LogSettings := do
  let standard : LogSettings := {}
  let f ← fields? ["level", "format", "file"] true x
  return {
    level := ← withDefault (f "level") string? standard.level
    format := ← withDefault (f "format") LineFormat.ofDocument? standard.format
    file := ← withDefault (f "file") (optional? string?) standard.file }

def Settings.ofDocument? (x : ν) : Option Settings := do
  let standard : Settings := {}
  let f ← fields? ["incident_log", "dispatcher", "logging"] true x
  return {
    incidents := ← withDefault (f "incident_log") IncidentSettings.ofDocument? standard.incidents
    dispatch := ← withDefault (f "dispatcher") DispatchSettings.ofDocument? standard.dispatch
    logging := ← withDefault (f "logging") LogSettings.ofDocument? standard.logging }

end Reading

def LineFormat.toJson (f : LineFormat) : Json := .string f.text

def IncidentSettings.toJson (s : IncidentSettings) : Json :=
  .object [("capacity", .nat s.capacity)]

def DispatchSettings.toJson (s : DispatchSettings) : Json :=
  .object [("event_interval_secs", .nat s.intervalSecs)]

def LogSettings.toJson (s : LogSettings) : Json :=
  .object [("level", .string s.level), ("format", s.format.toJson),
    ("file", (s.file.map Json.string).getD .null)]

def Settings.toJson (s : Settings) : Json :=
  .object [("incident_log", s.incidents.toJson), ("dispatcher", s.dispatch.toJson),
    ("logging", s.logging.toJson)]

end Cadence
