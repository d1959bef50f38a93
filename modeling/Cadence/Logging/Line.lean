import Cadence.Logging.Filter
import Cadence.Settings.Basic

/-!
# Lines of a log

An event as a line of text, without the time at its front: either for people, with
the open spans before the target, or as a JSON object with the fields of the event
beside its level, its target and the open spans.
-/

namespace Cadence.Logging

def italic (text : String) : String := "\x1b[3m" ++ text ++ "\x1b[0m"

def dimmed (text : String) : String := "\x1b[2m" ++ text ++ "\x1b[0m"

/-- A span before the target of a line. Spans are written once for all places that a
line goes to, one of which is a terminal. -/
def Span.text (s : Span) : String :=
  let fields := s.fields.map fun (name, value) => italic name ++ dimmed "=" ++ value
  s.name ++ (if fields.isEmpty then "" else "\x7b" ++ " ".intercalate fields ++ "\x7d") ++ ":"

/-- A line for people. -/
def prettyLine (spans : List Span) (e : Event) : String :=
  let fields := e.fields.map fun (name, value) => " " ++ name ++ "=" ++ value.shown
  e.level.label ++ " " ++ String.join (spans.map Span.text)
    ++ (if spans.isEmpty then "" else " ") ++ e.target ++ ": " ++ e.message ++ String.join fields

def ofFieldValue : FieldValue → Json
  | .number n => .nat n
  | .text s => .string s

def Span.toJson (s : Span) : Json :=
  .object
    (s.fields.map (fun (name, value) => (name, Json.string value)) ++ [("name", .string s.name)])

def jsonLine (spans : List Span) (e : Event) : Json :=
  let around := match spans.getLast? with
    | some innermost =>
        [("span", innermost.toJson), ("spans", .array (spans.map Span.toJson))]
    | none => []
  .object ([("level", .string e.level.label), ("message", .string e.message)]
    ++ e.fields.map (fun (name, value) => (name, ofFieldValue value))
    ++ [("target", .string e.target)] ++ around)

def line (format : LineFormat) (spans : List Span) (e : Event) : String :=
  match format with
  | .pretty => prettyLine spans e
  | .json => (jsonLine spans e).render

end Cadence.Logging
