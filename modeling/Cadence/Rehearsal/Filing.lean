import Cadence.Incident.Store

/-!
# Rehearsals of incident logs

Runs a log or a store of logs whose scopes are resolved by a table. A step may
edit the table; logs and stores are never told of that, they ask again.
-/

namespace Cadence.Rehearsal.Filing

open Cadence.Incident

/-- The roots of the known scopes. -/
abbrev Roots := List (ScopeId × ScopeId)

/-- Sets the root of a scope, or makes the scope unknown. -/
def Roots.set (roots : Roots) (scope : ScopeId) (root : Option ScopeId) : Roots :=
  let others := roots.filter (·.1 ≠ scope)
  match root with
  | some root => others ++ [(scope, root)]
  | none => others

/-- The table of a list of pairs; of two pairs for one scope the last counts. -/
def Roots.ofPairs (pairs : List (ScopeId × ScopeId)) : Roots :=
  pairs.foldl (fun roots (scope, root) => roots.set scope (some root)) []

/-- A step of a rehearsal. `root` is needed where a store has several logs. -/
inductive Step (α : Type)
  | record (scope : ScopeId) (incident : α)
  | recordAll (scope : ScopeId) (incidents : List α)
  | query (root : ScopeId) (scopes : List ScopeId)
  | delete (scope : ScopeId)
  | setRoot (scope : ScopeId) (root : Option ScopeId)
  | entries
  | stats
  | log (root : ScopeId)
  | describe
deriving Inhabited

inductive Answer (α : Type)
  | nothing
  | incidents (incidents : List α)
  | entries (entries : List (Filed α))
  | stats (stats : LogStats)
  | log (stats : LogStats) (entries : List (Filed α))
  | text (s : String)

/-- A log or a store with its table; `events` and `answer` are those of the last step. -/
structure Stage (κ α : Type) where
  kept : κ
  roots : Roots
  events : List Event := []
  answer : Answer α := .nothing

variable {α : Type}

/-- The incidents of a name followed by the numbers below `count`. -/
def numbered (name : String) (count : Nat) : List String :=
  (List.range count).map fun k => name ++ Text.decimal k

def onLog (w : Stage (Log α) α) (step : Step α) : Stage (Log α) α :=
  let w := { w with events := [], answer := .nothing }
  match step with
  | .record scope incident => { w with kept := w.kept.record scope incident }
  | .recordAll scope incidents =>
      { w with kept := incidents.foldl (fun log incident => log.record scope incident) w.kept }
  | .query _ scopes => { w with answer := .incidents (w.kept.query scopes) }
  | .delete scope =>
      let (log, events) := w.kept.onScopeDeleted scope (w.roots.lookup scope)
      { w with kept := log, events }
  | .setRoot scope root => { w with roots := w.roots.set scope root }
  | .entries => { w with answer := .entries w.kept.entries }
  | .stats => { w with answer := .stats w.kept.stats }
  | .log _ | .describe => w

def onStore (w : Stage (Store α) α) (step : Step α) : Stage (Store α) α :=
  let w := { w with events := [], answer := .nothing }
  match step with
  | .record scope incident =>
      let (store, events) := w.kept.record scope incident (w.roots.lookup scope)
      { w with kept := store, events }
  | .query root scopes => { w with answer := .incidents (w.kept.query root scopes) }
  | .delete scope =>
      let root := w.roots.lookup scope
      let (store, events) := w.kept.onScopeDeleted scope root root
      { w with kept := store, events }
  | .setRoot scope root => { w with roots := w.roots.set scope root }
  | .log root =>
      match w.kept.log? root with
      | some log => { w with answer := .log log.stats log.entries }
      | none => w
  | .describe => { w with answer := .text w.kept.describe }
  | .recordAll .. | .entries | .stats => w

/-- The stage after each of the steps. -/
def playAll {κ : Type} (perform : Stage κ α → Step α → Stage κ α) (w : Stage κ α) :
    List (Step α) → List (Stage κ α)
  | [] => []
  | step :: rest =>
      let w := perform w step
      w :: playAll perform w rest

end Cadence.Rehearsal.Filing
