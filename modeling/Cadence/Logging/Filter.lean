import Cadence.Logging.Directive

/-!
# Filters

Decides which events are logged and which spans are seen. A directive without a
span applies by target: of those that fit, the most specific one decides. A
directive with a span or with fields opens the spans that fit it, and inside of an
open span everything down to its level is logged, whatever its target.
-/

namespace Cadence.Logging

/-- What a filter looks at: the name of a span, if it is one, the target, the rank of
the level and the names of the fields. -/
structure Subject where
  span : Option String := none
  target : String
  level : Nat
  fields : List String

structure Span where
  name : String
  target : String
  level : Nat
  fields : List (String × String)

def Span.subject (s : Span) : Subject :=
  { span := some s.name, target := s.target, level := s.level, fields := s.fields.map Prod.fst }

def fanOutSpan (origin : Origin) : Span :=
  { name := "fan_out", target := "plumbkit_core::dispatcher", level := Level.debug.rank
    fields := [("origin", origin.text)] }

def subjectOf (e : Event) : Subject :=
  { target := e.target, level := e.level.rank, fields := "message" :: e.fields.map Prod.fst }

/-- Directives that apply by target, and directives that open spans. -/
structure Filter where
  byTarget : List Directive
  bySpan : List Directive
deriving DecidableEq

def Directive.opensSpans (d : Directive) : Bool := d.span.isSome || !d.fields.isEmpty

/-- Whether a directive applies by target: it names no span and no values. -/
def Directive.appliesByTarget (d : Directive) : Bool :=
  d.span.isNone && d.fields.all (·.value.isNone)

/-- Whether a target begins like that of a directive. -/
def Directive.coversTarget (d : Directive) (target : String) : Bool :=
  match d.target with
  | some t => t.toList.isPrefixOf target.toList
  | none => true

/-- Whether two directives select the same. -/
def Directive.selectsLike (d e : Directive) : Bool :=
  d.target = e.target && d.span = e.span && d.fields = e.fields

namespace Filter

/-- The filter of a list of directives. Without any, only errors are let through. -/
def ofDirectives (ds : List Directive) : Filter :=
  let bySpan := ds.filter Directive.opensSpans
  let byTarget := ds.filter (fun d => !d.opensSpans && d.appliesByTarget)
    ++ bySpan.filter Directive.appliesByTarget
  if ds.isEmpty then { byTarget := [{ level := Level.error.rank }], bySpan }
  else { byTarget, bySpan }

def read? (text : String) : Option Filter := (readDirectives? text).map ofDirectives

/-- The finest level of some directives. -/
def finest (ds : List Directive) : Nat := ds.foldl (fun n d => max n d.level) 0

def covers (d : Directive) (s : Subject) : Bool :=
  d.coversTarget s.target
    && (s.span.isSome || d.fields.all fun f => s.fields.contains f.name)

/-- Whether `d` is at least as specific as `e`, where both cover one subject. -/
def asSpecific (d e : Directive) : Bool :=
  let length (d : Directive) : Nat := (d.target.map (·.utf8ByteSize + 1)).getD 0
  let names (d : Directive) : List String := d.fields.map (·.name)
  if length d ≠ length e then length e < length d
  else if d.fields.length ≠ e.fields.length then e.fields.length < d.fields.length
  else !(names d < names e)

/-- The most specific directive that covers a subject; a later one replaces an
earlier one that selects the same. -/
def deciding? (f : Filter) (s : Subject) : Option Directive :=
  (f.byTarget.filter (covers · s)).foldl (fun best d =>
    match best with
    | none => some d
    | some b => if asSpecific d b then some d else best) none

/-- Whether a subject is let through by its target. -/
def passesByTarget (f : Filter) (s : Subject) : Bool :=
  s.level ≤ finest f.byTarget && ((f.deciding? s).map (decide <| s.level ≤ ·.level)).getD false

/-- The directives that open a span; of two that select the same the last counts. -/
def opening (f : Filter) (s : Subject) : List Directive :=
  let rec distinct : List Directive → List Directive
    | [] => []
    | d :: rest => if rest.any d.selectsLike then distinct rest else d :: distinct rest
  (distinct f.bySpan).filter fun d =>
    d.coversTarget s.target && (d.span.isNone || d.span = s.span)
      && d.fields.all fun field => s.fields.contains field.name

/-- The level that a span opens, or nothing if no directive is about it. Values that
do not match open nothing. -/
def opens? (f : Filter) (s : Span) : Option Nat :=
  let ds := f.opening s.subject
  if ds.isEmpty then none
  else
    some <| finest <| ds.filter fun d => d.fields.all fun field =>
      ((s.fields.lookup field.name).map field.matchesText).getD false

/-- The finest level that can be logged at all. -/
def limit (f : Filter) : Nat :=
  if f.bySpan.any fun d => d.fields.any (·.value.isSome) then Level.trace.rank
  else max (finest f.byTarget) (finest f.bySpan)

/-- Whether a subject is let through inside of spans that open the given levels. -/
def passes (f : Filter) (opened : List Nat) (s : Subject) : Bool :=
  s.level ≤ f.limit
    && ((s.level ≤ finest f.bySpan && opened.any (s.level ≤ ·)) || f.passesByTarget s)

/-- The spans that are seen, outermost first, and the levels they open. -/
def seen (f : Filter) (opened : List Nat) : List Span → List Span × List Nat
  | [] => ([], opened)
  | s :: rest =>
      let level := f.opens? s
      if (level.isSome && s.level ≤ f.limit) || f.passes opened s.subject then
        let (spans, opened) := f.seen (opened ++ level.toList) rest
        (s :: spans, opened)
      else f.seen opened rest

/-- The spans that are seen around an event, if the event is logged. -/
def admits? (f : Filter) (n : Note) : Option (List Span) :=
  let (spans, opened) := f.seen [] (n.spans.map fanOutSpan)
  if f.passes opened (subjectOf n.event) then some spans else none

end Filter

end Cadence.Logging
