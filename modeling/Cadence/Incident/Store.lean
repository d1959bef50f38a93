import Cadence.Incident.Log

/-!
# The incident store

One log for each root. A log comes into being with the first incident of its
tree and goes away with its root. The roots of scopes are known to somebody
else, who is asked at each operation and may answer differently each time.
-/

namespace Cadence.Incident

/-- A log for each root, all of one capacity. -/
structure Store (α : Type) where
  capacity : Nat
  logs : List (ScopeId × Log α) := []
deriving DecidableEq

namespace Store

variable {α : Type}

def log? (s : Store α) (root : ScopeId) : Option (Log α) := s.logs.lookup root

def updateLog (s : Store α) (root : ScopeId) (f : Log α → Log α) : Store α :=
  { s with logs := s.logs.map fun (r, log) => if r = root then (r, f log) else (r, log) }

/-- Files an incident in the log of its root; an unknown scope has none. -/
def record (s : Store α) (scope : ScopeId) (incident : α) (root : Option ScopeId) :
    Store α × List Event :=
  match root with
  | none => (s, [.unknownScope scope])
  | some root =>
      match s.log? root with
      | some _ => (s.updateLog root (·.record scope incident), [])
      | none =>
          let log : Log α := { capacity := s.capacity }
          ({ s with logs := s.logs ++ [(root, log.record scope incident)] },
            [.creatingLog root s.capacity])

/-- The incidents of a root's log that are filed under one of the scopes. -/
def query (s : Store α) (root : ScopeId) (scopes : List ScopeId) : List α :=
  ((s.log? root).map (·.query scopes)).getD []

/-- A scope went away. `root` is the answer to the store's question for the root
of the scope, `again` the answer to the log's. -/
def onScopeDeleted (s : Store α) (scope : ScopeId) (root again : Option ScopeId) :
    Store α × List Event :=
  match root with
  | none => (s, [])
  | some root =>
      match s.log? root with
      | none => (s, [])
      | some log =>
          if root = scope then
            ({ s with logs := s.logs.eraseP (·.1 = root) },
              [.destroyingLog root log.entries.length])
          else
            let (log, events) := log.onScopeDeleted scope again
            (s.updateLog root fun _ => log, events)

def rootCount (s : Store α) : Nat := s.logs.length

def describe (s : Store α) : String :=
  "IncidentStore \x7b capacity: " ++ Text.decimal s.capacity ++ ", roots: "
    ++ Text.decimal s.rootCount ++ " \x7d"

end Store

end Cadence.Incident
