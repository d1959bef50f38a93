import Cadence.Proofs.Pause.Run
import Mathlib.Data.Finset.Union

/-! # The coordinator as a machine with three phases

A coordinator is idle, active for a set of sources with a grace, or trailing until a
deadline. The machine says for each operation which calls are made and which phase
comes next. Next to it stand the runs of a session in which collaborators return
without calling back: there is at most one for given operations.
-/

namespace Cadence.Pause

/-- The phase of a coordinator. -/
inductive Phase
  | idle
  /-- These sources are busy, and the pause outlasts the last of them by the grace. -/
  | active (sources : Finset SourceId) (grace : Span)
  /-- No source is busy any more, and the pause lasts until the deadline. -/
  | trailing (deadline : Span)

namespace Phase

def status : Phase → Status
  | idle => .idle
  | active .. => .active
  | trailing _ => .trailing

def sources : Phase → Finset SourceId
  | active sources _ => sources
  | _ => ∅

def grace : Phase → Span
  | active _ grace => grace
  | _ => .zero

end Phase

/-- An operation on a coordinator and its agenda. -/
inductive Operation
  | pause (sources : List SourceId) (grace : Span)
  /-- A pause for every source there is; the signaller answers with `sources`. -/
  | pauseAll (sources : List SourceId) (grace : Span)
  | finish (source : SourceId)
  | travel (travel : Travel)

/-- The machine: the time and the phase. -/
structure Machine where
  elapsed : Span := .zero
  phase : Phase := .idle

namespace Machine

/-- A pause for no source is nothing. Any other acquires an idle pause and observes the
sources that are new, in the order in which they are first named. -/
def pause (m : Machine) (sources : List SourceId) (grace : Span) : List Call × Machine :=
  if sources = [] then ([], m)
  else
    ((if m.phase.status = .idle then [.acquire] else []) ++
        ((sources.filter (· ∉ m.phase.sources)).eraseDups.map .observe),
      { m with phase := .active (m.phase.sources ∪ sources.toFinset) (m.phase.grace.max grace) })

/-- A busy source is unobserved. With the last one the pause is released or, if there is a
grace, trails for it. -/
def finish (m : Machine) (source : SourceId) : List Call × Machine :=
  match m.phase with
  | .active sources grace =>
      if source ∉ sources then ([], m)
      else if sources ≠ {source} then
        ([.unobserve source], { m with phase := .active (sources.erase source) grace })
      else if grace = .zero then
        ([.unobserve source, .release], { m with phase := .idle })
      else ([.unobserve source], { m with phase := .trailing (m.elapsed + grace) })
  | _ => ([], m)

/-- A pause whose deadline comes by `limit` is released. -/
def expire (m : Machine) (limit : Span) : List Call × Machine :=
  match m.phase with
  | .trailing deadline =>
      if deadline ≤ limit then ([.release], { m with phase := .idle }) else ([], m)
  | _ => ([], m)

def travel (m : Machine) : Travel → List Call × Machine
  | .advance distance =>
      ((m.expire (m.elapsed + distance)).1,
        { (m.expire (m.elapsed + distance)).2 with elapsed := m.elapsed + distance })
  | .runUntilIdle => m.expire m.elapsed
  | .fastForward =>
      match m.phase with
      | .trailing deadline => ([.release], ⟨deadline, .idle⟩)
      | _ => ([], m)

/-- The calls of an operation, and the machine after it. -/
def step (m : Machine) : Operation → List Call × Machine
  | .pause sources grace => m.pause sources grace
  | .pauseAll sources grace =>
      (.allSources :: (m.pause sources grace).1, (m.pause sources grace).2)
  | .finish source => m.finish source
  | .travel t => m.travel t

/-- The calls of a run, and the machine after it. -/
def run (m : Machine) : List Operation → List Call × Machine
  | [] => ([], m)
  | operation :: rest =>
      ((m.step operation).1 ++ ((m.step operation).2.run rest).1,
        ((m.step operation).2.run rest).2)

end Machine

/-! ## Undisturbed runs -/

/-- The move with which an operation begins. -/
def Operation.move : Operation → Move
  | .pause sources grace => .pause sources grace
  | .pauseAll _ grace => .pauseAll grace
  | .finish source => .finish source
  | .travel t => .travel t

/-- What a call for the sources is answered. -/
def Operation.answer : Operation → List SourceId
  | .pauseAll sources _ => sources
  | _ => []

namespace Session

/-- What happens next where nobody calls back: the call on top returns, or the drive on top
takes its turn. -/
def reply (s : OnAgenda) (sources : List SourceId) : Option Move :=
  match s.frames with
  | [] => none
  | .within _ _ :: _ => some (.resume sources)
  | .travelling _ :: _ => some .proceed

/-- Without anybody calling back, a session comes to rest after some calls. -/
inductive Settles (sources : List SourceId) : OnAgenda → List Call → OnAgenda → Prop
  | rest {s : OnAgenda} (still : s.frames = []) : Settles sources s [] s
  | reply {s t : OnAgenda} {m : Move} {calls : List Call} (next : s.reply sources = some m)
      (later : Settles sources (s.perform m).session calls t) :
      Settles sources s ((s.perform m).signal.calls ++ calls) t

/-- The operations are carried out one after the other, and nobody calls back. -/
inductive Plays : OnAgenda → List Operation → List Call → OnAgenda → Prop
  | nil (s : OnAgenda) : Plays s [] [] s
  | cons {s t u : OnAgenda} {operation : Operation} {rest : List Operation}
      {calls more : List Call}
      (first : Settles operation.answer (s.perform operation.move).session calls t)
      (later : Plays t rest more u) :
      Plays s (operation :: rest)
        ((s.perform operation.move).signal.calls ++ calls ++ more) u

/-- There is one way to come to rest. -/
theorem Settles.unique {sources : List SourceId} {s t t' : OnAgenda} {calls calls' : List Call}
    (h : Settles sources s calls t) (h' : Settles sources s calls' t') :
    calls' = calls ∧ t' = t := by
  induction h generalizing calls' with
  | rest still =>
      cases h' with
      | rest => exact ⟨rfl, rfl⟩
      | reply next => simp [Session.reply, still] at next
  | reply next later ih =>
      cases h' with
      | rest still => simp [Session.reply, still] at next
      | reply next' later' =>
          cases next.symm.trans next'
          obtain ⟨rfl, rfl⟩ := ih later'
          exact ⟨rfl, rfl⟩

theorem Plays.unique {s t t' : OnAgenda} {operations : List Operation} {calls calls' : List Call}
    (h : Plays s operations calls t) (h' : Plays s operations calls' t') :
    calls' = calls ∧ t' = t := by
  induction h generalizing calls' with
  | nil =>
      cases h'
      exact ⟨rfl, rfl⟩
  | cons first later ih =>
      cases h' with
      | cons first' later' =>
          obtain ⟨rfl, rfl⟩ := first.unique first'
          obtain ⟨rfl, rfl⟩ := ih later'
          exact ⟨rfl, rfl⟩

end Session

end Cadence.Pause
